/-!
Blank characters. A text is trimmed by dropping the blanks at its two ends, and
blank means the whole White_Space property, not the ASCII part of it.
-/
namespace PageAudit.Text

/-- The characters of the White_Space property. -/
def isBlank (c : Char) : Bool :=
  let n := c.toNat
  (9 ≤ n && n ≤ 13) || n == 0x20 || n == 0x85 || n == 0xA0 || n == 0x1680 ||
    (0x2000 ≤ n && n ≤ 0x200A) || n == 0x2028 || n == 0x2029 || n == 0x202F ||
    n == 0x205F || n == 0x3000

/-- The characters left when the blanks in front are dropped. -/
def trimLeft (cs : List Char) : List Char := cs.dropWhile isBlank

/-- The characters left when the blanks at the end are dropped. -/
def trimRight (cs : List Char) : List Char := (cs.reverse.dropWhile isBlank).reverse

/-- The characters left when the blanks at both ends are dropped. -/
def trim (cs : List Char) : List Char := trimRight (trimLeft cs)

/-- A text without the blanks at its two ends. -/
def trimmed (s : String) : String := String.ofList (trim s.toList)

/-- A text of blanks only, the empty text included. -/
def isBlankText (s : String) : Bool := s.toList.all isBlank

end PageAudit.Text
