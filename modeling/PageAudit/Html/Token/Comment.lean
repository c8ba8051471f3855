/-!
Comments and declarations that are none. Nothing of a comment is kept, so each function
answers only where it ends.
-/
namespace PageAudit.Html.Comment

/-- How much of the end of a comment has been read. -/
inductive State where
  | opened
  | openedHyphen
  | body
  | hyphen
  | twoHyphens
  | bang

def step : State → Char → Option State
  | .opened, '-' => some .openedHyphen
  | .opened, '>' => none
  | .openedHyphen, '-' => some .twoHyphens
  | .openedHyphen, '>' => none
  | .body, '-' => some .hyphen
  | .hyphen, '-' => some .twoHyphens
  | .twoHyphens, '>' => none
  | .twoHyphens, '!' => some .bang
  | .twoHyphens, '-' => some .twoHyphens
  | .bang, '-' => some .hyphen
  | .bang, '>' => none
  | _, _ => some .body

/-- The text after a comment whose beginning is already read. -/
def rest (s : State) : List Char → List Char
  | [] => []
  | c :: cs =>
    match step s c with
    | some s => rest s cs
    | none => cs

/-- The text after the next greater-than sign. -/
def afterGreater (cs : List Char) : List Char := (cs.dropWhile (· != '>')).drop 1

end PageAudit.Html.Comment
