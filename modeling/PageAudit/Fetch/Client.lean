import PageAudit.Config
import PageAudit.Fetch.Error
import PageAudit.Fetch.Network
import PageAudit.Fetch.Response
import PageAudit.Page.Basic
import PageAudit.Url.Reader
/-!
Fetching a page. Redirects are followed as far as the settings allow, nothing is asked for
twice, and a fetch ends with the page that the last response holds or with the one reason why
there is none.
-/
namespace PageAudit.Fetch

/-- What a fetch ended with, and what it took. -/
structure Outcome where
  result : Except FetchError Page
  /-- The requests that reached a server, in order. -/
  requests : List Request
  /-- The status and the address of the response whose body was to be read. -/
  received : Option (UInt16 × String)

/-- A user agent that a header line can carry. -/
def isSendable (userAgent : String) : Bool :=
  userAgent.toUTF8.toList.all Header.isValueByte

/-- Characters of hosts and queries that no request line carries. -/
def isUnsendable (c : Char) : Bool := "\"\x60\x7b\x7d".toList.contains c

/-- The most bytes that the address of a request may have. -/
def maxAddress : Nat := 65534

/-- An address that can be written into a request. -/
def isAddressable (u : Url) : Bool :=
  !((u.hostText?.getD "").toList.any isUnsendable) &&
    !((u.query.getD "").toList.contains '\x60') &&
    (u.text.utf8ByteSize ≤ maxAddress)

/-- What an error about an address ends with. -/
def forUrl (u : Url) : String := " for url (" ++ u.text ++ ")"

/-- Statuses whose `Location` leads to another page. -/
def isRedirect (status : UInt16) : Bool := [301, 302, 303, 307, 308].contains status

/-- The page that a response leads on to. -/
def next? (u : Url) (r : Response) : Option Url := do
  if !isRedirect r.status then none
  let location ← r.headers.find? (·.isNamed "location")
  let text ← String.fromUTF8? ⟨location.value.toArray⟩
  (u.resolve? text).filter isAddressable

/-- The error of a request that was sent and got no response. -/
def sendError (config : Config) (u : Url) : Fault → FetchError
  | .broken => .request ("error sending request" ++ forUrl u)
  | .late => .timeout config.timeoutMs

/-- What the transport says of a body that did not come whole. -/
def bodyFault : String := "error decoding response body"

/-- The error of a response without a body. -/
def bodyError (config : Config) : Fault → FetchError
  | .broken => .body bodyFault
  | .late => .timeout config.timeoutMs

/-- The request for the page at an address. -/
def request (config : Config) (u : Url) : Request := ⟨Request.method, u, config.userAgent⟩

/-- The response to a request, unless there is none. -/
def send (net : Network) (config : Config) (u : Url) : Except FetchError Response :=
  match net.reply (request config u) with
  | .unreachable => .error (.connect ("error sending request" ++ forUrl u))
  | .answer bytes ending => (Response.read ending bytes).mapError (sendError config u)

/-- A request as far as it reached a server. -/
def sent (net : Network) (config : Config) (u : Url) : List Request :=
  match net.reply (request config u) with
  | .unreachable => []
  | .answer _ _ => [request config u]

/-- The page that a response holds. -/
def pageOf (net : Network) (config : Config) (u : Url) (r : Response) : Except FetchError Page :=
  match r.body with
  | .error fault => .error (bodyError config fault)
  | .ok body => .ok {
      finalUrl := u.text
      status := r.status
      headers := r.headers
      body := (Response.charset r.headers).decode body
      loadTime := net.elapsed }

/-- Addresses that a client can be sent on to. -/
def isWeb (u : Url) : Bool := u.scheme = "http" || u.scheme = "https"

/-- Asks for a page, and for those that it leads on to while `redirects` are left. -/
def follow (net : Network) (config : Config) (redirects : Nat) (u : Url) : Outcome :=
  match send net config u with
  | .error e => ⟨.error e, sent net config u, none⟩
  | .ok response =>
    match next? u response, redirects with
    | none, _ => ⟨pageOf net config u response, sent net config u, some (response.status, u.text)⟩
    | some _, 0 =>
      ⟨.error (.redirect ("error following redirect" ++ forUrl u)), sent net config u, none⟩
    | some target, left + 1 =>
      if isWeb target then
        let rest := follow net config left target
        { rest with requests := sent net config u ++ rest.requests }
      else ⟨.error (.request ("builder error" ++ forUrl target)), sent net config u, none⟩

/-- Fetches the page at an address that has its scheme. -/
def run (net : Network) (config : Config) (url : String) : Outcome :=
  if !isSendable config.userAgent then ⟨.error (.client "builder error"), [], none⟩
  else match Url.parse? url with
    | none => ⟨.error (.request "builder error"), [], none⟩
    | some u =>
      let u := u.withoutUser
      if isAddressable u then follow net config config.maxRedirects u
      else ⟨.error (.request ("builder error" ++ forUrl u)), [], none⟩

end PageAudit.Fetch
