import Std.Data.HashMap
import PageAudit.Html.Entity.Table
/-!
Looking up named character references. `longest?` finds the longest name at the start of
a text: the whole run of letters and digits when a semicolon ends it, and otherwise the
longest beginning of the run that may do without one.
-/
namespace PageAudit.Html.Entity

/-- What a name stands for, and whether the semicolon after it may be missing. -/
structure Entry where
  meaning : List Char
  loose : Bool
deriving Repr

def hexValue (c : Char) : Nat := if c.isDigit then c.toNat - 48 else c.toNat - 55

/-- The characters whose code points are written in hexadecimal, a comma between two. -/
def codePoints (current : Nat) : List Char → List Char
  | [] => [Char.ofNat current]
  | ',' :: rest => Char.ofNat current :: codePoints 0 rest
  | c :: rest => codePoints (current * 16 + hexValue c) rest

/-- The name and entry of one word of the table. -/
def entry (word : String) : String × Entry :=
  let cs := word.toList
  let name := String.ofList (cs.takeWhile Char.isAlphanum)
  match cs.dropWhile Char.isAlphanum with
  | mark :: codes => (name, ⟨codePoints 0 codes, mark == '.'⟩)
  | [] => (name, ⟨[], false⟩)

/-- Every entry by its name. -/
def table : Std.HashMap String Entry :=
  lines.foldl (fun m line => (line.splitOn " ").foldl (fun m w =>
    let (name, e) := entry w
    m.insert name e) m) ∅

/-- A name found in a text. -/
structure Match where
  meaning : List Char
  /-- Whether a semicolon ends it. -/
  closed : Bool
  /-- How many characters it takes, the semicolon included. -/
  length : Nat

/-- The longest beginning of `run` with at most `n` characters that is a loose name. -/
def longestLoose? (run : List Char) : Nat → Option (Nat × Entry)
  | 0 => none
  | n + 1 =>
    match table[String.ofList (run.take (n + 1))]? with
    | some e => if e.loose then some (n + 1, e) else longestLoose? run n
    | none => longestLoose? run n

/-- The longest loose name has this many characters. -/
def looseLimit : Nat := 6

/-- The longest name at the start of a text. -/
def longest? (cs : List Char) : Option Match :=
  let run := cs.takeWhile Char.isAlphanum
  let closedMatch := match cs.drop run.length with
    | ';' :: _ => table[String.ofList run]?.map fun e => ⟨e.meaning, true, run.length + 1⟩
    | _ => none
  closedMatch <|> (longestLoose? run (min looseLimit run.length)).map fun (n, e) =>
    ⟨e.meaning, false, n⟩

end PageAudit.Html.Entity
