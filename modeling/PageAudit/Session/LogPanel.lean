import PageAudit.Text.Lines
/-!
The panel with the end of the log. A file that has the size with which it was last read is
not read again; when the panel opens it is read in any case. A file that cannot be read shows
as one line that says why.
-/
namespace PageAudit.Session

structure LogPanel where
  shown : Bool := false
  lines : List String := []
  /-- The size of the file when it was last read, if it could be told. -/
  size : Option Nat := none
  /-- The columns that are scrolled past. -/
  scroll : Nat := 0
deriving DecidableEq, Repr, Inhabited

namespace LogPanel

/-- What is found of a log file: its bytes, or why they cannot be read. The size of a file is mostly
known also then. -/
inductive Found where
  | bytes (bytes : List UInt8)
  | unreadable (size : Option Nat) (reason : String)
deriving DecidableEq, Repr

/-- Bytes are what is found of a file that can be read. -/
instance : Coe (List UInt8) Found := ⟨.bytes⟩

/-- A log file, if there is one. -/
abbrev File := Option Found

/-- The size of a file, as far as it can be told. -/
def size? : File → Option Nat
  | none => none
  | some (.bytes bytes) => some bytes.length
  | some (.unreadable size _) => size

/-- The most lines that the panel keeps. -/
def maxLines : Nat := 200

/-- The columns that a step scrolls past. -/
def step : Nat := 4

/-- The most columns that can be scrolled past. -/
def maxScroll : Nat := UInt64.size - 1

/-- The text of bytes in UTF-8. -/
def utf8? (bytes : List UInt8) : Option String := String.fromUTF8? ⟨bytes.toArray⟩

def unavailable (reason : String) : List String := ["Log file unavailable: " ++ reason]

/-- The lines that a panel shows of a file. -/
def view : File → List String
  | none => unavailable "No such file or directory (os error 2)"
  | some (.unreadable _ reason) => unavailable reason
  | some (.bytes bytes) => match utf8? bytes with
    | some text => Text.lastLines maxLines text
    | none => unavailable "stream did not contain valid UTF-8"

/-- Reads the file, unless its size is the size it was last read with. -/
def refresh (file : File) (p : LogPanel) : LogPanel :=
  let size := size? file
  if size.isSome && size = p.size then p else { p with size := size, lines := view file }

/-- Opens or closes the panel. -/
def toggle (file : File) (p : LogPanel) : LogPanel :=
  if p.shown then { p with shown := false }
  else refresh file { p with shown := true, size := none }

def scrollLeft (p : LogPanel) : LogPanel := { p with scroll := p.scroll - step }

def scrollRight (p : LogPanel) : LogPanel := { p with scroll := min maxScroll (p.scroll + step) }

end LogPanel

end PageAudit.Session
