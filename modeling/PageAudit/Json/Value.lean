import PageAudit.Binary64.Basic
/-!
JSON values. A number keeps the class it was written in: whole and not negative, whole
and negative, or a binary64 value. The members of an object keep their order.
-/
namespace PageAudit

inductive Json.Number where
  | natural (n : Nat)
  | negative (n : Nat)
  | real (x : Binary64)
deriving DecidableEq, Repr

inductive Json where
  | null
  | bool (b : Bool)
  | number (n : Json.Number)
  | string (s : String)
  | array (items : List Json)
  | object (members : List (String × Json))
deriving Repr, Inhabited

namespace Json

/-- The member of an object with the given key, the last of several. -/
def member? (key : String) : Json → Option Json
  | .object members => (members.reverse.find? (·.1 == key)).map (·.2)
  | _ => none

def text? : Json → Option String
  | .string s => some s
  | _ => none

def items? : Json → Option (List Json)
  | .array items => some items
  | _ => none

def natural? : Json → Option Nat
  | .number (.natural n) => some n
  | _ => none

/-- Whether a value is there at all and not null. -/
def present? : Option Json → Option Json
  | some .null => none
  | v => v

end Json

end PageAudit
