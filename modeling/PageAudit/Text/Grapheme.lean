import PageAudit.Text.Grapheme.Table
import PageAudit.Text.Mark
/-!
User-perceived characters. A text falls into clusters: a mark stays with its letter, the
parts of a Korean syllable with each other, two letters that name a flag are one, and so are
pictures with a joiner between them. What a character joins depends on its kind and on a
little of what stands before it (`Progress`).
-/
namespace PageAudit.Text

namespace Grapheme

inductive Kind where
  | control
  | carriageReturn
  | lineFeed
  | extending
  | joiner
  | attaching
  | prepended
  | lead
  | vowel
  | trail
  /-- A syllable without a trailing consonant. -/
  | openSyllable
  | closedSyllable
  /-- Half of a flag. -/
  | regional
  | picture
  | conjoining
  | linker
  | other
deriving DecidableEq, Repr

def extendingSpans : List Span := spans extending
def attachingSpans : List Span := spans attaching
def detachedSpans : List Span := spans detached
def prependedSpans : List Span := spans prepended
def controlSpans : List Span := spans controls
def pictureSpans : List Span := spans pictures
def conjoiningSpans : List Span := spans conjoining
def linkerSpans : List Span := spans linkers

def leadSpans : List Span := [⟨0x1100, 0x115F⟩, ⟨0xA960, 0xA97C⟩]
def vowelSpans : List Span := [⟨0x1160, 0x11A7⟩, ⟨0xD7B0, 0xD7C6⟩, ⟨0x16D63, 0x16D63⟩,
  ⟨0x16D67, 0x16D6A⟩]
def trailSpans : List Span := [⟨0x11A8, 0x11FF⟩, ⟨0xD7CB, 0xD7FB⟩]

def isRegional (c : Char) : Bool := 0x1F1E6 ≤ c.toNat && c.toNat ≤ 0x1F1FF

def kind (c : Char) : Kind :=
  let n := c.toNat
  if 32 ≤ n && n < 127 then .other
  else if n = 13 then .carriageReturn
  else if n = 10 then .lineFeed
  else if n = 0x200D then .joiner
  else if inSpans controlSpans c then .control
  else if inSpans linkerSpans c then .linker
  else if Mark.isNonspacing c || inSpans extendingSpans c then .extending
  else if (Mark.isSpacing c && !inSpans detachedSpans c) || inSpans attachingSpans c then .attaching
  else if inSpans prependedSpans c then .prepended
  else if inSpans leadSpans c then .lead
  else if inSpans vowelSpans c then .vowel
  else if inSpans trailSpans c then .trail
  else if 0xAC00 ≤ n && n ≤ 0xD7A3 then
    (if (n - 0xAC00) % 28 = 0 then .openSyllable else .closedSyllable)
  else if isRegional c then .regional
  else if inSpans pictureSpans c then .picture
  else if inSpans conjoiningSpans c then .conjoining
  else .other

/-- How far a chain is: two links with something between that joins them. -/
inductive Chain where
  | none
  | open
  /-- The joint has been seen, so that a further link belongs to the chain. -/
  | joined
deriving DecidableEq, Repr

/-- What is known of the cluster so far. -/
structure Progress where
  last : Kind
  /-- The last character is the first half of a flag. -/
  isHalf : Bool
  pictures : Chain
  consonants : Chain

def pictureChain (before : Chain) : Kind → Chain
  | .picture => .open
  | .extending | .linker => if before = .none then .none else .open
  | .joiner => if before = .open then .joined else .none
  | _ => .none

def consonantChain (before : Chain) : Kind → Chain
  | .conjoining => .open
  | .linker => if before = .none then .none else .joined
  | .extending | .joiner => before
  | _ => .none

/-- What is known after a character of a kind. -/
def Progress.after (p : Progress) (joins : Bool) (k : Kind) : Progress where
  last := k
  isHalf := k = .regional && !(joins && p.isHalf)
  pictures := pictureChain (if joins then p.pictures else .none) k
  consonants := consonantChain (if joins then p.consonants else .none) k

def isBreaking (k : Kind) : Bool := k = .control || k = .carriageReturn || k = .lineFeed

/-- Whether a character of a kind belongs to the cluster. -/
def Progress.joins (p : Progress) (k : Kind) : Bool :=
  if p.last = .carriageReturn && k = .lineFeed then true
  else if isBreaking p.last || isBreaking k then false
  else match p.last, k with
    | _, .extending | _, .linker | _, .joiner | _, .attaching => true
    | .prepended, _ => true
    | .lead, .lead | .lead, .vowel | .lead, .openSyllable | .lead, .closedSyllable => true
    | .openSyllable, .vowel | .openSyllable, .trail | .vowel, .vowel | .vowel, .trail => true
    | .closedSyllable, .trail | .trail, .trail => true
    | _, .regional => p.isHalf
    | _, .picture => p.pictures = .joined
    | _, .conjoining => p.consonants = .joined
    | _, _ => false

def startOf (k : Kind) : Progress := Progress.after ⟨.other, false, .none, .none⟩ false k

/-- The clusters of a text, the one being read given in reverse. -/
def clustersFrom (current : List Char) (p : Progress) : List Char → List (List Char)
  | [] => [current.reverse]
  | c :: rest =>
    let k := kind c
    if p.joins k then clustersFrom (c :: current) (p.after true k) rest
    else current.reverse :: clustersFrom [c] (startOf k) rest

end Grapheme

/-- The clusters of a text, in order. -/
def clusters : List Char → List (List Char)
  | [] => []
  | c :: rest => Grapheme.clustersFrom [c] (Grapheme.startOf (Grapheme.kind c)) rest

end PageAudit.Text
