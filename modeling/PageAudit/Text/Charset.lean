import PageAudit.Text.Blank
/-!
Texts in bytes. A byte order mark at the start names the encoding and is dropped; without one
the encoding is the given one. Bytes that are no part of a character become the replacement
character, one for each sequence that could not be continued.
-/
namespace PageAudit.Text

inductive Charset where
  | utf8
  | utf16 (isBig : Bool)
  /-- One byte to a character, the Latin letters of Western Europe. -/
  | western
deriving DecidableEq, Repr

namespace Charset

def replacement : Char := '\uFFFD'

/-- The number of bytes after a first byte, the bits that it adds, and the bounds of the
second byte. -/
def lead? (b : Nat) : Option (Nat × Nat × Nat × Nat) :=
  if 0xC2 ≤ b && b ≤ 0xDF then some (1, b - 0xC0, 0x80, 0xBF)
  else if b = 0xE0 then some (2, 0, 0xA0, 0xBF)
  else if b = 0xED then some (2, 13, 0x80, 0x9F)
  else if 0xE1 ≤ b && b ≤ 0xEF then some (2, b - 0xE0, 0x80, 0xBF)
  else if b = 0xF0 then some (3, 0, 0x90, 0xBF)
  else if 0xF1 ≤ b && b ≤ 0xF3 then some (3, b - 0xF0, 0x80, 0xBF)
  else if b = 0xF4 then some (3, 4, 0x80, 0x8F)
  else none

/-- A character of which `more` bytes are to come, the next of them between `low` and `high`. -/
structure Pending where
  more : Nat
  bits : Nat
  low : Nat
  high : Nat

/-- What a byte at the start of a character gives: text, or a character to be continued. -/
def start (b : Nat) : List Char × Option Pending :=
  if b < 128 then ([Char.ofNat b], none)
  else match lead? b with
    | some (more, bits, low, high) => ([], some ⟨more, bits, low, high⟩)
    | none => ([replacement], none)

def decodeUtf8 (pending : Option Pending) : List UInt8 → List Char
  | [] => if pending.isSome then [replacement] else []
  | byte :: rest =>
    let b := byte.toNat
    match pending with
    | none =>
      let (text, next) := start b
      text ++ decodeUtf8 next rest
    | some p =>
      if p.low ≤ b && b ≤ p.high then
        let bits := 64 * p.bits + (b - 0x80)
        if p.more = 1 then Char.ofNat bits :: decodeUtf8 none rest
        else decodeUtf8 (some ⟨p.more - 1, bits, 0x80, 0xBF⟩) rest
      else
        let (text, next) := start b
        replacement :: (text ++ decodeUtf8 next rest)

/-- The characters of units of 16 bits, of which two may stand for one character; `first` is
the first of two when it has been read. -/
def decodeUnits (first : Option Nat) : List Nat → List Char
  | [] => if first.isSome then [replacement] else []
  | u :: rest =>
    let lone := if first.isSome then [replacement] else []
    if 0xD800 ≤ u && u < 0xDC00 then lone ++ decodeUnits (some u) rest
    else if 0xDC00 ≤ u && u < 0xE000 then
      (match first with
        | some high => Char.ofNat (0x10000 + 1024 * (high - 0xD800) + (u - 0xDC00))
        | none => replacement) :: decodeUnits none rest
    else lone ++ Char.ofNat u :: decodeUnits none rest

/-- The units of bytes, without an odd byte at the end. -/
def units (isBig : Bool) : List UInt8 → List Nat
  | a :: b :: rest =>
    (if isBig then 256 * a.toNat + b.toNat else 256 * b.toNat + a.toNat) :: units isBig rest
  | _ => []

def decodeUtf16 (isBig : Bool) (bytes : List UInt8) : List Char :=
  decodeUnits none (units isBig bytes) ++ (if bytes.length % 2 = 1 then [replacement] else [])

/-- The characters of the bytes from 128 to 159. -/
def westernSigns : List Nat := [
  0x20AC, 0x81, 0x201A, 0x192, 0x201E, 0x2026, 0x2020, 0x2021, 0x2C6, 0x2030, 0x160, 0x2039,
  0x152, 0x8D, 0x17D, 0x8F, 0x90, 0x2018, 0x2019, 0x201C, 0x201D, 0x2022, 0x2013, 0x2014, 0x2DC,
  0x2122, 0x161, 0x203A, 0x153, 0x9D, 0x17E, 0x178]

def decodeWestern (bytes : List UInt8) : List Char :=
  bytes.map fun b => Char.ofNat ((if b < 128 then none else westernSigns[b.toNat - 128]?).getD b.toNat)

/-- The encoding that a name denotes. -/
def ofName? (name : String) : Option Charset :=
  let name := (Text.trimmed name).toLower
  if ["utf-8", "utf8", "unicode-1-1-utf-8"].contains name then some .utf8
  else if ["utf-16", "utf-16le", "unicode", "ucs-2", "iso-10646-ucs-2"].contains name then
    some (.utf16 false)
  else if ["utf-16be", "unicodefffe"].contains name then some (.utf16 true)
  else if ["windows-1252", "cp1252", "x-cp1252", "iso-8859-1", "iso8859-1", "iso_8859-1", "latin1",
      "l1", "ascii", "us-ascii"].contains name then some .western
  else none

/-- The text that bytes in an encoding spell. -/
def decode (charset : Charset) (bytes : List UInt8) : String :=
  let text (charset : Charset) (bytes : List UInt8) := match charset with
    | .utf8 => decodeUtf8 none bytes
    | .utf16 isBig => decodeUtf16 isBig bytes
    | .western => decodeWestern bytes
  String.ofList (match bytes with
    | 0xEF :: 0xBB :: 0xBF :: rest => text .utf8 rest
    | 0xFE :: 0xFF :: rest => text (.utf16 true) rest
    | 0xFF :: 0xFE :: rest => text (.utf16 false) rest
    | _ => text charset bytes)

end Charset

end PageAudit.Text
