/-!
Runs of code points, as tables write them: the first and the last in hexadecimal with a
hyphen between them, or the only one.
-/
namespace PageAudit.Text

/-- The value of a hexadecimal digit. -/
def hexDigit? (c : Char) : Option Nat :=
  if c.isDigit then some (c.toNat - 48)
  else if 'a' ≤ c && c ≤ 'f' then some (c.toNat - 87)
  else if 'A' ≤ c && c ≤ 'F' then some (c.toNat - 55)
  else none

/-- The number that a run of hexadecimal digits denotes. -/
def hexNumber (cs : List Char) : Nat := cs.foldl (fun n c => 16 * n + (hexDigit? c).getD 0) 0

/-- The pieces of a text between the characters that `isEnd` names, one more than these. -/
def splitAll (isEnd : Char → Bool) : List Char → List (List Char)
  | [] => [[]]
  | c :: rest =>
    if isEnd c then [] :: splitAll isEnd rest
    else match splitAll isEnd rest with
      | piece :: pieces => (c :: piece) :: pieces
      | [] => [[c]]

/-- Code points from `first` to `last`. -/
structure Span where
  first : Nat
  last : Nat
deriving DecidableEq, Repr

namespace Span

def holds (s : Span) (n : Nat) : Bool := s.first ≤ n && n ≤ s.last

/-- The run that a word of a table denotes. -/
def ofWord (word : List Char) : Span :=
  match splitAll (· == '-') word with
  | first :: last :: _ => ⟨hexNumber first, hexNumber last⟩
  | _ => ⟨hexNumber word, hexNumber word⟩

end Span

/-- The words of a table. -/
def tableWords (lines : List String) : List (List Char) :=
  lines.flatMap fun line => splitAll (· == ' ') line.toList

/-- The runs of a table. -/
def spans (lines : List String) : List Span := (tableWords lines).map Span.ofWord

/-- Whether some run holds a character. -/
def inSpans (runs : List Span) (c : Char) : Bool := runs.any (·.holds c.toNat)

end PageAudit.Text
