import PageAudit.Url.Host
/-!
Addresses. An address with a host, and any whose path starts with a slash, has its path
divided into segments; the path of others is one piece of text. All parts are kept as they
are written, with what has to be escaped escaped.
-/
namespace PageAudit

/-- The path of an address. -/
inductive Url.Path where
  | segments (list : List String)
  | bare (text : String)
deriving DecidableEq, Repr, Inhabited

structure Url where
  scheme : String
  username : String
  password : String
  /-- Absent where no slashes announce a host, and empty where no host follows them. -/
  host : Option Url.Host
  /-- The port, unless it is the usual one of the scheme. -/
  port : Option Nat
  path : Url.Path
  query : Option String
  fragment : Option String
deriving DecidableEq, Repr, Inhabited

namespace Url

/-- The schemes of the web with the ports that they usually mean. -/
def usualPort? (scheme : String) : Option Nat :=
  if scheme = "http" || scheme = "ws" then some 80
  else if scheme = "https" || scheme = "wss" then some 443
  else if scheme = "ftp" then some 21
  else none

/-- Schemes whose addresses need a host. -/
def isWeb (scheme : String) : Bool := (usualPort? scheme).isSome

/-- Schemes whose addresses treat a backslash like a slash. -/
def isSpecial (scheme : String) : Bool := isWeb scheme || scheme = "file"

/-- The host in writing, unless it is absent or empty. -/
def hostText? (u : Url) : Option String := (u.host.map Host.text).filter (· != "")

def Path.text : Path → String
  | .segments list => String.join (list.map ("/" ++ ·))
  | .bare text => text

/-- Name and password in front of the host. -/
def userinfo (u : Url) : String :=
  if u.username.isEmpty && u.password.isEmpty then ""
  else u.username ++ (if u.password.isEmpty then "" else ":" ++ u.password) ++ "@"

/-- What stands between the scheme and the path. -/
def authority (u : Url) : String :=
  match u.host, u.path with
  | some host, _ =>
    "//" ++ u.userinfo ++ host.text ++ ((u.port.map fun p => ":" ++ toString p).getD "")
  | none, .segments ("" :: _ :: _) => "/."
  | none, _ => ""

/-- What stands behind the path. -/
def tail (u : Url) : String :=
  ((u.query.map ("?" ++ ·)).getD "") ++ ((u.fragment.map ("#" ++ ·)).getD "")

/-- The address in writing. -/
def text (u : Url) : String := u.scheme ++ ":" ++ u.authority ++ u.path.text ++ u.tail

/-- The address without a name and a password. -/
def withoutUser (u : Url) : Url := { u with username := "", password := "" }

end Url

end PageAudit
