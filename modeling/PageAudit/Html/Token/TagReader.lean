import PageAudit.Html.Token
import PageAudit.Html.Token.DoctypeReader
/-!
Reading tags: the name, then attributes up to the greater-than sign. A tag that the end
of the text breaks off is no tag, and what was read of it is gone. Of several attributes
with one name the first counts.
-/
namespace PageAudit.Html.Tag

open Doctype (isSpace skipSpace skipSpace_length clean)

/-- Lower case for the characters of a name. -/
def nameChar (c : Char) : Char := (clean c).toLower

/-- Characters up to a white space, a solidus or a greater-than sign. -/
def endsName (c : Char) : Bool := isSpace c || c == '/' || c == '>'

/-- The name of a tag and what follows it. -/
def readName (cs : List Char) : String × List Char :=
  let name := cs.takeWhile fun c => !endsName c
  (String.ofList (name.map nameChar), cs.drop name.length)

/-! ### Attribute values -/

/-- Characters of an attribute value up to one that ends it, references replaced. The
characters so far are given in reverse, and the next `skip` characters belong to the last
reference. -/
def valueUntil (ends : Char → Bool) (read : List Char) : Nat → List Char → String × List Char
  | _, [] => (String.ofList read.reverse, [])
  | skip + 1, _ :: cs => valueUntil ends read skip cs
  | 0, c :: cs =>
    if ends c then (String.ofList read.reverse, c :: cs)
    else if c == '&' then
      match Reference.read? true cs with
      | some r => valueUntil ends (r.meaning.reverse ++ read) r.length cs
      | none => valueUntil ends ('&' :: read) 0 cs
    else valueUntil ends (clean c :: read) 0 cs

theorem valueUntil_length (ends : Char → Bool) (read : List Char) (skip : Nat) (cs : List Char) :
    (valueUntil ends read skip cs).2.length ≤ cs.length := by
  fun_induction valueUntil ends read skip cs <;> simp_all <;> omega

/-- The value after an equals sign, and the text from the first character that is no part
of the attribute; nothing when the text ends within it. -/
def readValue (cs : List Char) : Option (String × List Char) :=
  let cs := skipSpace cs
  let quotedBy (quote : Char) (rest : List Char) : Option (String × List Char) :=
    match valueUntil (· == quote) [] 0 rest with
    | (value, _ :: rest) => some (value, rest)
    | (_, []) => none
  match cs with
  | [] => none
  | '"' :: rest => quotedBy '"' rest
  | '\'' :: rest => quotedBy '\'' rest
  | '>' :: _ => some ("", cs)
  | cs => some (valueUntil (fun c => isSpace c || c == '>') [] 0 cs)

theorem readValue_length {cs rest : List Char} {value : String}
    (h : readValue cs = some (value, rest)) : rest.length ≤ cs.length := by
  have := skipSpace_length cs
  have hv := valueUntil_length
  unfold readValue at h
  grind

/-! ### Attributes -/

/-- One attribute whose name starts at the first character. -/
def readAttribute : List Char → Option ((String × String) × List Char)
  | [] => none
  | first :: cs =>
    let more := cs.takeWhile fun c => !endsName c && c != '='
    let name := String.ofList ((first :: more).map nameChar)
    match skipSpace (cs.drop more.length) with
    | '=' :: rest => (readValue rest).map fun (value, rest) => ((name, value), rest)
    | rest => some ((name, ""), rest)

theorem readAttribute_length {cs rest : List Char} {a : String × String}
    (h : readAttribute cs = some (a, rest)) : rest.length < cs.length := by
  match cs with
  | [] => simp [readAttribute] at h
  | first :: cs =>
    simp only [readAttribute] at h
    have hs := skipSpace_length (cs.drop (cs.takeWhile fun c => !endsName c && c != '=').length)
    split at h
    · next valueText he =>
      obtain ⟨⟨value, after⟩, hv, ha⟩ := Option.map_eq_some_iff.1 h
      have := readValue_length hv
      grind
    · grind

/-- Adds an attribute unless there is one of its name. -/
def addAttribute (attributes : List (String × String)) (a : String × String) :
    List (String × String) :=
  if attributes.any (·.1 == a.1) then attributes else attributes ++ [a]

/-- Attributes up to the greater-than sign, whether a solidus stands right before it, and
the rest of the text; nothing when the text ends before. -/
def readAttributes (found : List (String × String)) (cs : List Char) :
    Option (List (String × String) × Bool × List Char) :=
  match _h : skipSpace cs with
  | [] => none
  | '>' :: rest => some (found, false, rest)
  | '/' :: '>' :: rest => some (found, true, rest)
  | '/' :: rest => readAttributes found rest
  | c :: rest =>
    match _h : readAttribute (c :: rest) with
    | some (a, rest) => readAttributes (addAttribute found a) rest
    | none => none
termination_by cs.length
decreasing_by
  · grind [skipSpace_length cs]
  · grind [skipSpace_length cs, readAttribute_length ‹_›]

/-- The tag whose name starts at the first character. -/
def read? (cs : List Char) : Option (Tag × List Char) :=
  let (name, rest) := readName cs
  (readAttributes [] rest).map fun (attributes, selfClosing, rest) =>
    (⟨name, attributes, selfClosing⟩, rest)

/-- The text, after a less-than sign and a solidus, spells the end tag of an element. -/
def closes (name : String) (cs : List Char) : Bool :=
  let letters := cs.takeWhile Char.isAlpha
  name == String.ofList (letters.map Char.toLower) &&
    match cs.drop letters.length with
    | c :: _ => endsName c
    | [] => false

end PageAudit.Html.Tag
