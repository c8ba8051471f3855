import PageAudit.Text.Composition
import PageAudit.Url.Domain.ScriptTable
import PageAudit.Url.Domain.Table
import PageAudit.Url.Punycode
/-!
Domain names. A name is folded first: its characters are mapped to those that names are
compared by, some are left out, and the rest is composed. Each label of the folded name is
then checked and written in ASCII, one that holds other characters as `xn--` and its
Punycode. `ofText?` refuses names that hold a character no name may hold, labels that are
no Punycode after `xn--`, and labels that break the rules on marks, on joiners or on the
direction of writing.
-/
namespace PageAudit.Url.Domain

open Text

/-! ### Folding -/

/-- What the code points of one word of `mapped` become. -/
def meanings (word : List Char) : List (Nat × List Char) :=
  let run := word.takeWhile fun c => c.isAlphanum || c == '-'
  let s := Span.ofWord run
  let chars (text : List Char) := (splitAll (· == ',') text).map fun w => Char.ofNat (hexNumber w)
  let size := s.last - s.first + 1
  match word.drop run.length with
  | '=' :: texts =>
    (splitAll (· == '/') texts).zipIdx.map fun (text, i) => (s.first + i, chars text)
  | '+' :: start =>
    (List.range size).map fun i => (s.first + i, [Char.ofNat (hexNumber start + i)])
  | '*' :: start =>
    (List.range (size / 2 + 1)).map fun i =>
      (s.first + 2 * i, [Char.ofNat (hexNumber start + 2 * i)])
  | '!' :: text => (List.range size).map fun i => (s.first + i, chars text)
  | _ => []

/-- What characters become, by code point. -/
def mapping : Std.HashMap Nat (List Char) :=
  (tableWords mapped).foldl (fun m word => m.insertMany (meanings word)) ∅

def ignoredSpans : List Span := spans ignored

def disallowedSpans : List Span := spans disallowed

/-- ASCII characters that end a host or have a meaning of their own around it. -/
def isForbidden (c : Char) : Bool :=
  c.toNat ≤ 0x20 || c.toNat == 0x7F || "%#/:<>?@[\\]^|".toList.contains c

/-- The characters that one character is folded to; nothing if no name may hold it. -/
def foldChar? (c : Char) : Option (List Char) :=
  match mapping[c.toNat]? with
  | some cs => some cs
  | none =>
    if inSpans ignoredSpans c then some []
    else if inSpans disallowedSpans c then none
    else some [c]

/-- The characters that a name is folded to. -/
def fold? (name : List Char) : Option (List Char) := do
  let folded := composed (← name.mapM foldChar?).flatten
  if folded.any isForbidden then none else some folded

/-! ### Checks on a label -/

def isAscii (label : List Char) : Bool := label.all (·.toNat < 128)

def joinBothSpans : List Span := spans joinBoth
def joinNextSpans : List Span := spans joinNext
def joinPreviousSpans : List Span := spans joinPrevious

/-- The nearest letter that is no mark without room joins the given way. -/
def joins (runs : List Span) (nearestFirst : List Char) : Bool :=
  match nearestFirst.dropWhile Mark.isNonspacing with
  | c :: _ => inSpans runs c
  | [] => false

/-- Whether joiners stand where they change the look of the text: behind a mark that silences
a vowel, or, for the one that keeps letters apart, between two letters that would join. -/
def joinersAllowed (before : List Char) : List Char → Bool
  | [] => true
  | c :: rest =>
    let afterVirama := (before.head?.map combiningClass) == some viramaClass
    let allowed :=
      if c = '\u200D' then afterVirama
      else if c = '\u200C' then
        afterVirama || (joins (joinBothSpans ++ joinNextSpans) before &&
          joins (joinBothSpans ++ joinPreviousSpans) rest)
      else true
    allowed && joinersAllowed (c :: before) rest

/-- A label that is not written in ASCII may be used. -/
def isLabel (label : List Char) : Bool :=
  !(label.head?.map isMark).getD false && joinersAllowed [] label

/-! ### Direction of writing -/

/-- How a character takes part in the direction of a line. -/
inductive Direction where
  | left
  | right
  | arabicDigit
  | digit
  | neutral
  | mark
deriving DecidableEq, Repr

def rightSpans : List Span := spans rightToLeft
def arabicDigitSpans : List Span := spans arabicDigits
def digitSpans : List Span := spans digits
def neutralSpans : List Span := spans neutral

def direction (c : Char) : Direction :=
  if Mark.isNonspacing c then .mark
  else if inSpans rightSpans c then .right
  else if inSpans arabicDigitSpans c then .arabicDigit
  else if inSpans digitSpans c then .digit
  else if inSpans neutralSpans c then .neutral
  else .left

/-- A label whose characters keep their order when the line around it runs either way. -/
def keepsOrder (label : List Char) : Bool :=
  let ds := label.map direction
  let last := (ds.reverse.dropWhile (· == .mark)).head?
  match ds.head? with
  | some .left =>
    !(ds.contains .right || ds.contains .arabicDigit) && (last == some .left || last == some .digit)
  | some .right =>
    !ds.contains .left && !(ds.contains .digit && ds.contains .arabicDigit) &&
      (last == some .right || last == some .digit || last == some .arabicDigit)
  | some _ => false
  | none => true

def runsRightToLeft (label : List Char) : Bool :=
  label.any fun c => direction c == .right || direction c == .arabicDigit

/-! ### Labels and names -/

/-- What marks a label as Punycode. -/
def codedMark : List Char := ['x', 'n', '-', '-']

/-- A label as it is read; nothing if it may not be used. -/
def readable? (label : List Char) : Option (List Char) :=
  if codedMark.isPrefixOf label then do
    if !isAscii label then none
    let text ← Punycode.decode? (label.drop codedMark.length)
    if isAscii text || fold? text != some text || !isLabel text then none else some text
  else if isAscii label || isLabel label then some label else none

/-- A label as it is written. -/
def written (label : List Char) : List Char :=
  if isAscii label then label else codedMark ++ Punycode.encode label

/-- The name in ASCII that a text denotes. -/
def ofText? (text : List Char) : Option (List Char) := do
  let labels := splitAll (· == '.') (← fold? text)
  let readings ← labels.mapM readable?
  if readings.any runsRightToLeft && !readings.all keepsOrder then none
  else some (['.'].intercalate (labels.map written))

end PageAudit.Url.Domain
