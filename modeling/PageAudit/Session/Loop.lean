import PageAudit.Audit.Run
import PageAudit.Session.Key
import PageAudit.View.Draw
/-!
The loop of a session. Each round draws the screen, handles at most one event, takes over the
result of an audit that has ended, and lets the clock tick. The loop ends when the session is
closed, and what has not been read by then stays unread.
-/
namespace PageAudit.Session

/-- A session with the addresses of the audits that are under way, the oldest first. -/
structure Loop where
  desk : Desk
  underWay : List String := []
deriving DecidableEq, Repr

/-- An audit that ends: what its requests met, and when it began. -/
structure Ended where
  network : Fetch.Network
  time : ZonedTime

/-- What a round meets. -/
structure Round where
  width : Nat
  height : Nat
  event : Option Event := none
  /-- The end of the oldest audit that is under way. -/
  ended : Option Ended := none
  /-- The log file during the round. -/
  log : LogPanel.File := none

namespace Loop

/-- Draws the screen. -/
def draw (width height : Nat) (l : Loop) : Except View.DrawError (View.Picture × Loop) := do
  let (picture, session) ← View.draw width height l.desk.session
  return (picture, { l with desk := { l.desk with session := session } })

/-- Handles an event; an audit that it starts is under way from then on. -/
def handle (l : Loop) (e : Event) : Loop :=
  let (desk, target) := l.desk.handle e
  { desk := desk, underWay := l.underWay ++ target.toList }

/-- Takes over the result of an audit that has ended. -/
def deliver (config : Config) (ended : Ended) (l : Loop) : Loop :=
  match l.underWay with
  | [] => l
  | target :: rest =>
    let run := audit ended.network config ended.time target
    { desk := l.desk.act (.finish run.result), underWay := rest }

def act (a : Action) (l : Loop) : Loop := { l with desk := l.desk.act a }

/-- Finds the log file as it is now. -/
def meet (log : LogPanel.File) (l : Loop) : Loop :=
  { l with desk := { l.desk with store := { l.desk.store with log := log } } }

/-- What follows the drawing in a round. -/
def proceed (config : Config) (r : Round) (l : Loop) : Loop :=
  let l := l.meet r.log
  let l := match r.event with
    | some e => l.handle e
    | none => l
  let l := match r.ended with
    | some ended => l.deliver config ended
    | none => l
  l.act .tick

/-- A whole round; also what it drew. -/
def step (config : Config) (r : Round) (l : Loop) : Except View.DrawError (View.Picture × Loop) := do
  let (picture, l) ← l.draw r.width r.height
  return (picture, l.proceed config r)

/-- How a loop ends. -/
structure Ending where
  loop : Loop
  /-- What was drawn last. -/
  picture : Option View.Picture
  unread : List Round

/-- Plays rounds until the session is closed; `picture` is what was drawn before them. -/
def run (config : Config) (picture : Option View.Picture) (l : Loop) :
    List Round → Except View.DrawError Ending
  | [] => .ok ⟨l, picture, []⟩
  | r :: rest =>
    if l.desk.session.closed then .ok ⟨l, picture, r :: rest⟩
    else do
      let (drawn, l) ← l.step config r
      run config (some drawn) l rest

end Loop

end PageAudit.Session
