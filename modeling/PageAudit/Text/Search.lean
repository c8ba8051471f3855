/-!
Literal search: whether one text occurs in another as a contiguous run.
-/
namespace PageAudit.Text

/-- Some contiguous run of the second text equals the first. -/
def occursIn (pattern : List Char) : List Char → Bool
  | [] => pattern.isEmpty
  | c :: rest => pattern.isPrefixOf (c :: rest) || occursIn pattern rest

/-- The text starts with the given characters. -/
def startsWith (s start : String) : Bool := start.toList.isPrefixOf s.toList

end PageAudit.Text
