import PageAudit.Url.Address4
import PageAudit.Url.Address6
import PageAudit.Url.Domain
import PageAudit.Url.Percent
/-!
Hosts. In addresses of the web a host is a domain name or a numeric address. In others it is
any text without the characters that would end it, or a numeric address in brackets.
-/
namespace PageAudit.Url

inductive Host where
  /-- A domain name, or the name of a host outside the web. -/
  | name (text : String)
  | address4 (address : Nat)
  | address6 (pieces : List Nat)
deriving DecidableEq, Repr, Inhabited

namespace Host

def text : Host → String
  | .name text => text
  | .address4 address => Address4.text address
  | .address6 pieces => "[" ++ Address6.text pieces ++ "]"

/-- An address in brackets, given without the first of them. -/
def bracketed? (cs : List Char) : Option Host :=
  match cs.reverse with
  | ']' :: inner => (Address6.ofText? inner.reverse).map .address6
  | _ => none

/-- The host of an address of the web. -/
def ofWeb? (cs : List Char) : Option Host :=
  match cs with
  | '[' :: rest => bracketed? rest
  | _ => do
    let bytes := Percent.decode (String.ofList cs).toUTF8.toList
    let text ← String.fromUTF8? ⟨bytes.toArray⟩
    let name ← Domain.ofText? text.toList
    if name.isEmpty then none
    else if Address4.isMeant name then (Address4.ofName? name).map .address4
    else some (.name (String.ofList name))

/-- Characters that the name of a host outside the web cannot hold. -/
def isForbidden (c : Char) : Bool := "\x00\t\n\r #/:<>?@[\\]^|".toList.contains c

/-- The host of an address outside the web, which may be empty. -/
def ofOther? (cs : List Char) : Option Host :=
  match cs with
  | '[' :: rest => bracketed? rest
  | _ =>
    if cs.any isForbidden then none
    else some (.name (String.ofList (Percent.encode Percent.isControl cs)))

end Host

end PageAudit.Url
