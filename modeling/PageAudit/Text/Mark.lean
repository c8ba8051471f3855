import PageAudit.Decimal.Whole
import PageAudit.Text.Mark.Table
import PageAudit.Text.Span
/-!
Marks: characters that belong to the one before them. Marks of two combining classes attach
to different places of a letter, so their order does not matter, while those of one class
stack up in the order in which they come. Class zero is that of all other characters.
-/
namespace PageAudit.Text

namespace Mark

/-- Marks of one combining class. -/
structure Run where
  span : Span
  order : Nat

def Run.ofWord (word : List Char) : Run :=
  match splitAll (· == '.') word with
  | run :: order :: _ => ⟨Span.ofWord run, (Decimal.digits? order).getD 0⟩
  | _ => ⟨Span.ofWord word, 0⟩

def nonspacingRuns : List Run := (tableWords nonspacing).map Run.ofWord

def spacingRuns : List Run := (tableWords spacing).map Run.ofWord

/-- The first code point of a mark. -/
def least : Nat := 0x300

def find? (c : Char) (runs : List Run) : Option Run :=
  if c.toNat < least then none else runs.find? (·.span.holds c.toNat)

/-- A mark that takes no room of its own. -/
def isNonspacing (c : Char) : Bool := (find? c nonspacingRuns).isSome

/-- A mark that takes room. -/
def isSpacing (c : Char) : Bool := (find? c spacingRuns).isSome

end Mark

def isMark (c : Char) : Bool := Mark.isNonspacing c || Mark.isSpacing c

/-- The combining class of a character. -/
def combiningClass (c : Char) : Nat :=
  ((Mark.find? c Mark.nonspacingRuns <|> Mark.find? c Mark.spacingRuns).map (·.order)).getD 0

/-- The class of marks that silence the vowel of the letter before them. -/
def viramaClass : Nat := 9

end PageAudit.Text
