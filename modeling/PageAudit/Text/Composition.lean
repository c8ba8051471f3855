import Std.Data.HashMap
import PageAudit.Text.Composition.Table
import PageAudit.Text.Mark
/-!
Canonical composition. Two spellings of a text are canonically equal when they agree once
every composite is taken apart and the marks of a letter are sorted by their class;
`composed` is the spelling with the most composites. A character that is only another name
of a single one is left as it is.
-/
namespace PageAudit.Text

namespace Composition

/-- A composite with its two characters. -/
structure Pair where
  first : Char
  second : Char
  whole : Char

/-- The composites of one word of the table. -/
def pairsOfWord (word : List Char) : List Pair :=
  match splitAll (· == ':') word with
  | second :: items :: _ => (splitAll (· == '/') items).filterMap fun item =>
    match splitAll (· == ',') item with
    | [first, whole] => some ⟨Char.ofNat (hexNumber first), Char.ofNat (hexNumber second),
        Char.ofNat (hexNumber whole)⟩
    | _ => none
  | _ => []

def pairs : List Pair := (tableWords lines).flatMap pairsOfWord

/-- Two characters as one number. -/
def pairKey (first second : Char) : Nat := first.toNat * 0x110000 + second.toNat

/-- The two characters of a composite, by the code point of the composite. -/
def parts : Std.HashMap Nat (Char × Char) :=
  pairs.foldl (fun m p => m.insert p.whole.toNat (p.first, p.second)) ∅

/-- The composite of two characters, by the two. -/
def wholes : Std.HashMap Nat Char :=
  pairs.foldl (fun m p => m.insert (pairKey p.first p.second) p.whole) ∅

/-! ### Syllables of the Korean script

They are composed by arithmetic: a leading consonant, a vowel and possibly a trailing
consonant, in that order of significance. -/

def syllableBase : Nat := 0xAC00
def leadBase : Nat := 0x1100
def vowelBase : Nat := 0x1161
def trailBase : Nat := 0x11A7
def leadCount : Nat := 19
def vowelCount : Nat := 21
def trailCount : Nat := 28

/-- The index of a character among the syllables. -/
def syllable? (c : Char) : Option Nat :=
  if syllableBase ≤ c.toNat && c.toNat < syllableBase + leadCount * vowelCount * trailCount then
    some (c.toNat - syllableBase)
  else none

/-- The consonants and the vowel of a syllable. -/
def syllableParts (index : Nat) : List Char :=
  let lead := Char.ofNat (leadBase + index / (vowelCount * trailCount))
  let vowel := Char.ofNat (vowelBase + index / trailCount % vowelCount)
  let trail := index % trailCount
  if trail = 0 then [lead, vowel] else [lead, vowel, Char.ofNat (trailBase + trail)]

/-- The syllable that a syllable without a trailing consonant, or a leading consonant,
makes with the character after it. -/
def syllableOf? (a b : Char) : Option Char :=
  if leadBase ≤ a.toNat && a.toNat < leadBase + leadCount && vowelBase ≤ b.toNat &&
      b.toNat < vowelBase + vowelCount then
    some (Char.ofNat (syllableBase +
      ((a.toNat - leadBase) * vowelCount + (b.toNat - vowelBase)) * trailCount))
  else match syllable? a with
    | some index =>
      if index % trailCount = 0 && trailBase < b.toNat && b.toNat < trailBase + trailCount then
        some (Char.ofNat (a.toNat + (b.toNat - trailBase)))
      else none
    | none => none

/-! ### Taking apart and putting together -/

/-- A character taken apart `depth` times. -/
def apart (depth : Nat) (c : Char) : List Char :=
  match depth with
  | 0 => [c]
  | depth + 1 => match parts[c.toNat]? with
    | some (first, second) => apart depth first ++ apart depth second
    | none => [c]

/-- Composites nest at most this deep. -/
def depth : Nat := 4

/-- The characters that a character consists of. -/
def decomposed (c : Char) : List Char :=
  if c.toNat < 0xC0 then [c]
  else match syllable? c with
    | some index => syllableParts index
    | none => apart depth c

/-- Puts a mark behind those of its class or a lower one; the text is given in reverse. -/
def insertMark (c : Char) : List Char → List Char
  | [] => [c]
  | d :: rest =>
    if 0 < combiningClass c && combiningClass c < combiningClass d then d :: insertMark c rest
    else c :: d :: rest

/-- The text with the marks of every letter sorted by class, equal ones in their order. -/
def sortMarks (cs : List Char) : List Char :=
  (cs.foldl (fun sorted c => insertMark c sorted) []).reverse

def whole? (a b : Char) : Option Char := syllableOf? a b <|> wholes[pairKey a b]?

/-- Composes a letter with what follows it. `kept` holds, in reverse, the marks after the
letter that did not compose; a mark behind one of its own class is not next to the letter. -/
def composeFrom (letter : Char) (kept : List Char) : List Char → List Char
  | [] => letter :: kept.reverse
  | c :: rest =>
    let adjacent := match kept with
      | [] => true
      | d :: _ => combiningClass d < combiningClass c
    match if adjacent then whole? letter c else none with
    | some whole => composeFrom whole kept rest
    | none =>
      if combiningClass c = 0 then letter :: kept.reverse ++ composeFrom c [] rest
      else composeFrom letter (c :: kept) rest

end Composition

/-- The canonically equal text with the most composites. -/
def composed (cs : List Char) : List Char :=
  match Composition.sortMarks (cs.flatMap Composition.decomposed) with
  | [] => []
  | c :: rest => Composition.composeFrom c [] rest

end PageAudit.Text
