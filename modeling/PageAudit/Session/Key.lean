import PageAudit.Session.Action
import PageAudit.Text.Blank
/-!
Keys. What a key does depends on what is shown. The notice comes first and knows two keys. In
an idle session every character is typed, so that the keys which are commands elsewhere are
letters of an address there. A session that scans can only be closed.
-/
namespace PageAudit.Session

inductive Key where
  | char (c : Char)
  | enter
  | escape
  | backspace
  | up
  | down
  | left
  | right
  /-- A key that means nothing anywhere. -/
  | other
deriving DecidableEq, Repr

/-- What happened to a key. -/
inductive Stroke where
  | press
  | hold
  | release
deriving DecidableEq, Repr

/-- What a terminal reports. -/
inductive Event where
  | key (stroke : Stroke) (k : Key)
  /-- What is not about keys. -/
  | other
deriving DecidableEq, Repr

/-- What a key asks for. -/
inductive Command where
  | insert (c : Char)
  | erase
  /-- To audit an address. -/
  | audit (target : String)
  | act (a : Action)
deriving DecidableEq, Repr

namespace Command

def underNotice? : Key → Option Command
  | .enter => some (.act .dismissNotice)
  | .escape => some (.act .close)
  | _ => none

def whenIdle? (input : String) : Key → Option Command
  | .escape => some (.act .close)
  | .char c => some (.insert c)
  | .backspace => some .erase
  | .enter =>
    let target := Text.trimmed input
    if target = "" then none else some (.audit target)
  | _ => none

def whenScanning? : Key → Option Command
  | .char 'q' => some (.act .close)
  | .escape => some (.act .close)
  | _ => none

def whenFinished? : Key → Option Command
  | .char 'q' => some (.act .close)
  | .escape => some (.act .close)
  | .char 'n' => some (.act .reset)
  | .char 'e' => some (.act (.save .text))
  | .char 'j' => some (.act (.save .json))
  | .char 'l' => some (.act .toggleLog)
  | .up => some (.act .selectPrevious)
  | .down => some (.act .selectNext)
  | .left => some (.act .scrollLeft)
  | .right => some (.act .scrollRight)
  | _ => none

/-- What a key asks a session for, if for anything. -/
def ofKey? (s : Session) (k : Key) : Option Command :=
  if s.noticeShown then underNotice? k
  else match s.phase with
    | .idle => whenIdle? s.input k
    | .scanning => whenScanning? k
    | .finished => whenFinished? k

/-- What an event asks a session for; of what happens to keys only presses count. -/
def ofEvent? (s : Session) : Event → Option Command
  | .key .press k => ofKey? s k
  | _ => none

/-- The address that a command asks to audit. -/
def target? : Command → Option String
  | .audit target => some target
  | _ => none

end Command

def Desk.obey (d : Desk) : Command → Desk
  | .insert c => d.update (Session.insert c)
  | .erase => d.update Session.erase
  | .audit _ => d.act .startScan
  | .act a => d.act a

/-- Handles an event; also the address of the audit that it starts. -/
def Desk.handle (d : Desk) (e : Event) : Desk × Option String :=
  match Command.ofEvent? d.session e with
  | some c => (d.obey c, c.target?)
  | none => (d, none)

end PageAudit.Session
