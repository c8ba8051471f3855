import PageAudit.Json.Real
import PageAudit.Json.Value
/-!
Written JSON. `pretty` indents by two spaces, puts each item and member on a line of its
own, writes `[]` and the empty object without a line break, and leaves every character
from the space on raw except the quote and the backslash.
-/
namespace PageAudit.Json

/-- One hexadecimal digit, in lower case. -/
def hexDigit (n : Nat) : Char :=
  if n < 10 then Char.ofNat (48 + n) else Char.ofNat (87 + n)

/-- A character inside a JSON string. -/
def escapeChar (c : Char) : List Char :=
  match c with
  | '"' => ['\\', '"']
  | '\\' => ['\\', '\\']
  | '\x08' => ['\\', 'b']
  | '\x0c' => ['\\', 'f']
  | '\n' => ['\\', 'n']
  | '\r' => ['\\', 'r']
  | '\t' => ['\\', 't']
  | c =>
    if c.toNat < 32 then ['\\', 'u', '0', '0', hexDigit (c.toNat / 16), hexDigit (c.toNat % 16)]
    else [c]

/-- A text as a JSON string, quotes included. -/
def quoted (s : String) : List Char := '"' :: s.toList.flatMap escapeChar ++ ['"']

def Number.text : Number → List Char
  | .natural n => (toString n).toList
  | .negative n => '-' :: (toString n).toList
  | .real x => (realText x).toList

/-- A line break and the indentation of a nesting depth. -/
def newline (depth : Nat) : List Char := '\n' :: List.replicate (2 * depth) ' '

mutual

/-- A value at a nesting depth. -/
def prettyAt (depth : Nat) : Json → List Char
  | .null => "null".toList
  | .bool b => (if b then "true" else "false").toList
  | .number n => n.text
  | .string s => quoted s
  | .array [] => ['[', ']']
  | .array (v :: vs) =>
    '[' :: newline (depth + 1) ++ prettyAt (depth + 1) v ++ prettyItems (depth + 1) vs ++
      newline depth ++ [']']
  | .object [] => ['{', '}']
  | .object ((k, v) :: ms) =>
    '{' :: newline (depth + 1) ++ quoted k ++ ':' :: ' ' :: prettyAt (depth + 1) v ++
      prettyMembers (depth + 1) ms ++ newline depth ++ ['}']

/-- The items after the first. -/
def prettyItems (depth : Nat) : List Json → List Char
  | [] => []
  | v :: vs => ',' :: newline depth ++ prettyAt depth v ++ prettyItems depth vs

/-- The members after the first. -/
def prettyMembers (depth : Nat) : List (String × Json) → List Char
  | [] => []
  | (k, v) :: ms =>
    ',' :: newline depth ++ quoted k ++ ':' :: ' ' :: prettyAt depth v ++ prettyMembers depth ms

end

/-- A value over several lines. -/
def pretty (v : Json) : String := String.ofList (prettyAt 0 v)

end PageAudit.Json
