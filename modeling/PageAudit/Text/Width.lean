import PageAudit.Text.Grapheme
import PageAudit.Text.Width.Table
/-!
Widths. A character takes no column, one or two, and a cluster as many as its characters
together. Pictures are the exception: one with its style or a tone of skin chosen, and
several with joiners between them, take the two columns of one picture.
-/
namespace PageAudit.Text

namespace Width

def wideSpans : List Span := spans wide
def unseenSpans : List Span := spans unseen
def styledSpans : List Span := spans styled
def presentedSpans : List Span := spans presented
def baseSpans : List Span := spans bases

/-- A tone of skin. -/
def isTone (c : Char) : Bool := 0x1F3FB ≤ c.toNat && c.toNat ≤ 0x1F3FF

/-- The mark that makes a picture of the character before it. -/
def pictureStyle : Char := '\uFE0F'

/-- The mark that makes a letter of the character before it. -/
def letterStyle : Char := '\uFE0E'

def joiner : Char := '\u200D'

def isUnseen (c : Char) : Bool :=
  !isTone c &&
    (Mark.isNonspacing c || inSpans Grapheme.extendingSpans c || inSpans unseenSpans c)

/-- The columns of a character on its own. -/
def ofChar (c : Char) : Nat :=
  if c.toNat < 0xAD then 1
  else if isUnseen c then 0
  else if inSpans wideSpans c then 2
  else 1

def sum (cs : List Char) : Nat := cs.foldr (fun c n => ofChar c + n) 0

/-- The columns of a cluster that starts with a character, and the rest of it. -/
def ofParts (first : Char) : List Char → Nat
  | [] => ofChar first
  | second :: rest =>
    let isPicture := inSpans Grapheme.pictureSpans first
    if isPicture && rest.any (inSpans Grapheme.pictureSpans ·) && (second :: rest).contains joiner then 2
    else if second = pictureStyle && inSpans styledSpans first then 2 + sum rest
    else if second = letterStyle && inSpans presentedSpans first then 1 + sum rest
    else if isTone second && inSpans baseSpans first then 2 + sum rest
    else sum (first :: second :: rest)

end Width

/-- The columns of a cluster. -/
def clusterWidth : List Char → Nat
  | [] => 0
  | c :: rest => Width.ofParts c rest

end PageAudit.Text
