import PageAudit.Text.Case.Table
/-!
Lower case for all of Unicode. Most characters have a lower case of their own (`lowerChar`).
Two rules go beyond that: the dotted capital I becomes two characters, and a capital sigma
takes its final form at the end of a word, that is after a letter and before none, with
characters that case looks through left out of account.
-/
namespace PageAudit.Text.Case

def inRuns (runs : List (Nat × Nat)) (c : Char) : Bool :=
  runs.any fun (first, last) => first ≤ c.toNat && c.toNat ≤ last

def isCased (c : Char) : Bool := inRuns cased c

def isIgnorable (c : Char) : Bool := inRuns ignorable c

/-- The code points of a run. -/
def Run.holds (r : Run) (n : Nat) : Bool :=
  r.first ≤ n && n ≤ r.last && (n - r.first) % r.step == 0

/-- The simple lower case of a character. -/
def lowerChar (c : Char) : Char :=
  if c.toNat < 128 then c.toLower
  else match lowering.find? (·.holds c.toNat) with
    | some r => Char.ofNat ((c.toNat : Int) + r.shift).toNat
    | none => c

/-- Whether the first character that case does not look through is a letter. -/
def meetsLetter (cs : List Char) : Bool :=
  match cs.dropWhile isIgnorable with
  | c :: _ => isCased c
  | [] => false

/-- The lower case of a character, given what stands before it, in reverse, and after. -/
def lowerIn (before : List Char) (c : Char) (after : List Char) : List Char :=
  if c = '\u0130' then ['i', '\u0307']
  else if c = '\u03A3' then
    if meetsLetter before && !meetsLetter after then ['\u03C2'] else ['\u03C3']
  else [lowerChar c]

def lowerFrom (before : List Char) : List Char → List Char
  | [] => []
  | c :: after => lowerIn before c after ++ lowerFrom (c :: before) after

/-- A text in lower case. -/
def lower (cs : List Char) : List Char := lowerFrom [] cs

end PageAudit.Text.Case
