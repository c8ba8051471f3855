import PageAudit.Text.Span
/-!
Percent encoding: a byte written as a percent sign and two hexadecimal digits. Which
characters of a part of an address are written so depends on the part.
-/
namespace PageAudit.Url.Percent

/-- The bytes of a text in which a percent sign and two digits stand for a byte. -/
def decode : List UInt8 → List UInt8
  | 37 :: a :: b :: rest =>
    match Text.hexDigit? (Char.ofNat a.toNat), Text.hexDigit? (Char.ofNat b.toNat) with
    | some high, some low => UInt8.ofNat (16 * high + low) :: decode rest
    | _, _ => 37 :: decode (a :: b :: rest)
  | b :: rest => b :: decode rest
  | [] => []
termination_by bytes => bytes.length

def digit (n : Nat) : Char := Char.ofNat (if n < 10 then 48 + n else 55 + n)

def ofByte (b : UInt8) : List Char := ['%', digit (b.toNat / 16), digit (b.toNat % 16)]

/-- The text with the characters that `isEscaped` names, and all beyond ASCII, escaped. -/
def encode (isEscaped : Char → Bool) (cs : List Char) : List Char :=
  cs.flatMap fun c =>
    if isEscaped c || 127 ≤ c.toNat then c.toString.toUTF8.toList.flatMap ofByte else [c]

/-! ### What is escaped where -/

def isControl (c : Char) : Bool := c.toNat < 32

def inFragment (c : Char) : Bool := isControl c || " \"<>\x60".toList.contains c

def inQuery (isSpecial : Bool) (c : Char) : Bool :=
  isControl c || " \"#<>".toList.contains c || (isSpecial && c == '\'')

def inPath (c : Char) : Bool := inFragment c || "#?\x7b\x7d".toList.contains c

def inUserinfo (c : Char) : Bool := inPath c || "/:;=@[\\]^|".toList.contains c

end PageAudit.Url.Percent
