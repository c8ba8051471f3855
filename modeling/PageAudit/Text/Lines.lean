/-!
Lines of a text. A line feed ends a line, one carriage return before it belongs to
the line end, and a text that ends in a line feed has no further line after it.
-/
namespace PageAudit.Text

/-- A line read in reverse, without the carriage return of its line end. -/
def closeLine : List Char → List Char
  | '\r' :: line => line.reverse
  | line => line.reverse

/-- Lines of a text, the characters of the line being read given in reverse. -/
def linesFrom (current : List Char) : List Char → List (List Char)
  | [] => if current.isEmpty then [] else [current.reverse]
  | '\n' :: rest => closeLine current :: linesFrom [] rest
  | c :: rest => linesFrom (c :: current) rest

/-- The lines of a text, in order. -/
def lines (s : String) : List String := (linesFrom [] s.toList).map String.ofList

/-- The last `n` elements of a list. -/
def lastOf (n : Nat) (xs : List α) : List α := xs.drop (xs.length - n)

/-- The last `n` lines of a text, all of them when it has fewer. -/
def lastLines (n : Nat) (s : String) : List String := lastOf n (lines s)

end PageAudit.Text
