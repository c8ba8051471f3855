import PageAudit.Html.Entity
/-!
Character references. `read?` takes the characters after an ampersand and answers the
characters that the reference stands for and how many it takes, or nothing when the
ampersand is just an ampersand.
-/
namespace PageAudit.Html.Reference

/-- The replacement character, which stands for what has no character of its own. -/
def replacement : Char := '\uFFFD'

/-- Numbers from 128 to 159 mean characters of a legacy code page. -/
def legacy : List Nat := [
  0x20AC, 0x81, 0x201A, 0x0192, 0x201E, 0x2026, 0x2020, 0x2021,
  0x02C6, 0x2030, 0x0160, 0x2039, 0x0152, 0x8D, 0x017D, 0x8F,
  0x90, 0x2018, 0x2019, 0x201C, 0x201D, 0x2022, 0x2013, 0x2014,
  0x02DC, 0x2122, 0x0161, 0x203A, 0x0153, 0x9D, 0x017E, 0x0178]

/-- The character of a numeric reference. -/
def ofNumber (n : Nat) : Char :=
  if n = 0 || 0x10FFFF < n || (0xD800 ≤ n && n ≤ 0xDFFF) then replacement
  else if 0x80 ≤ n && n ≤ 0x9F then Char.ofNat (legacy.getD (n - 0x80) n)
  else Char.ofNat n

def digitOf (hex : Bool) (c : Char) : Option Nat :=
  if c.isDigit then some (c.toNat - 48)
  else if hex && 'a' ≤ c && c ≤ 'f' then some (c.toNat - 87)
  else if hex && 'A' ≤ c && c ≤ 'F' then some (c.toNat - 55)
  else none

/-- The digits in front, as a number together with how many they are. Beyond the last
code point the number stays where it is. -/
def digits (hex : Bool) (n count : Nat) : List Char → Nat × Nat × List Char
  | [] => (n, count, [])
  | c :: rest =>
    match digitOf hex c with
    | some d => digits hex (min 0x110000 (n * (if hex then 16 else 10) + d)) (count + 1) rest
    | none => (n, count, c :: rest)

/-- What a reference stands for, how many characters it takes, and whether it was written
as it should be. -/
structure Found where
  meaning : List Char
  length : Nat
  sound : Bool

/-- A numeric reference, from its digits on; before them are `mark` characters of it. -/
def numeric? (hex : Bool) (mark : Nat) (cs : List Char) : Option Found :=
  match digits hex 0 0 cs with
  | (_, 0, _) => none
  | (n, count, ';' :: _) => some ⟨[ofNumber n], mark + count + 1, true⟩
  | (n, count, _) => some ⟨[ofNumber n], mark + count, false⟩

/-- Whether a character after a name without semicolon keeps it from being a reference in
an attribute value. -/
def continuesName : List Char → Bool
  | c :: _ => c == '=' || c.isAlphanum
  | [] => false

def named? (inAttribute : Bool) (cs : List Char) : Option Found :=
  match Entity.longest? cs with
  | some m =>
    if inAttribute && !m.closed && continuesName (cs.drop m.length) then none
    else some ⟨m.meaning, m.length, m.closed⟩
  | none => none

/-- The reference at the start of a text whose ampersand is already read. -/
def read? (inAttribute : Bool) : List Char → Option Found
  | '#' :: 'x' :: rest => numeric? true 2 rest
  | '#' :: 'X' :: rest => numeric? true 2 rest
  | '#' :: rest => numeric? false 1 rest
  | cs => named? inAttribute cs

end PageAudit.Html.Reference
