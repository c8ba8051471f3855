/-!
Words: the runs of a text between ASCII white space. An attribute such as `rel`
lists its tokens this way.
-/
namespace PageAudit.Text

/-- The white space that separates the tokens of an attribute value. -/
def isAsciiBlank (c : Char) : Bool :=
  c == ' ' || c == '\t' || c == '\n' || c == '\x0c' || c == '\r'

/-- Words of a text, the characters of the word being read given in reverse. -/
def wordsFrom (current : List Char) : List Char → List (List Char)
  | [] => if current.isEmpty then [] else [current.reverse]
  | c :: rest =>
    if isAsciiBlank c then
      if current.isEmpty then wordsFrom [] rest else current.reverse :: wordsFrom [] rest
    else wordsFrom (c :: current) rest

/-- The maximal runs without ASCII white space, in order. -/
def words (s : String) : List String := (wordsFrom [] s.toList).map String.ofList

end PageAudit.Text
