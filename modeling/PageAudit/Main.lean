import PageAudit.Program
import PageAudit.Session.Loop
import Std.Time.DateTime
import Std.Time.Zoned.Database
/-!
The program. With an address it prints a report and ends; without one it holds a session, in
which the characters of a line of input are typed, its line end is the enter key, and the screen
is shown after each line. There is no network here, so every audit ends with an error.
-/
namespace PageAudit.Main

/-- The seconds by which the clocks here are ahead of Universal Time. Where nothing is known of
the zone they are not. -/
def localOffset (moment : Std.Time.Timestamp) : IO Int := do
  try
    return ((← Std.Time.Database.defaultGetLocalZoneRules).timezoneAt moment).offset.second.val
  catch
    | _ => return 0

/-- The time of the clock. -/
def now : IO ZonedTime := do
  let moment ← Std.Time.Timestamp.now
  let t := (Std.Time.DateTime.ofTimestampWithZone moment .UTC).toPlainDateTime
  let date : Date := ⟨t.date.year, t.date.month.val.toNat, t.date.day.val.toNat⟩
  return ⟨⟨date, t.time.hour.val.toNat, t.time.minute.val.toNat, t.time.second.val.toNat,
    t.time.nanosecond.val.toNat⟩, ← localOffset moment⟩

/-- The variables that the program looks at. -/
def environment : IO (String → Option String) := do
  let found ← (Program.filterKeys ++ Config.keys).mapM fun key => return (key, ← IO.getEnv key)
  return fun key => (found.lookup key).join

/-- The path of the folder with the log and the reports. -/
def folder : IO String := do
  match ← IO.getEnv "XDG_DATA_HOME", ← IO.getEnv "HOME" with
  | some path, _ => return path ++ "/vanguard-rs-audit"
  | none, some path => return path ++ "/.local/share/vanguard-rs-audit"
  | none, none => return "./.data"

def logPath (path : String) : String := path ++ "/vanguard-rs-audit.log"

/-! ### A report -/

def report (path : String) (lookup : String → Option String) (p : Program.Printout) : IO UInt32 := do
  let time : ZonedTime := (← now).instant
  let lines := (Log.lines (Program.logFilter lookup) p.log).map (time.exact ++ " " ++ ·)
  IO.FS.createDirAll path
  IO.FS.writeFile (logPath path) (String.join (lines.map (· ++ "\n")))
  IO.print p.output
  return UInt32.ofNat p.exitCode

/-! ### A session -/

def readLog (path : String) : IO Session.LogPanel.File := do
  try
    return some (.bytes (← IO.FS.readBinFile (logPath path)).toList)
  catch
    | .noFileOrDirectory .. => return none
    | e => return some (.unreadable none (toString e))

/-- Writes the reports that a session has saved. -/
def writeReports (st : Session.Store) : IO Unit := do
  IO.FS.createDirAll st.reportsPath
  for (name, entry) in st.reports.entries do
    match entry with
    | .file contents => IO.FS.writeFile (st.reportsPath ++ "/" ++ name) contents
    | .blocked => pure ()

/-- Plays a round; an audit that is under way ends in it. -/
def play (config : Config) (l : Session.Loop) (event : Option Session.Event) :
    IO (View.Picture × Session.Loop) := do
  let time ← now
  let ended := if l.underWay.isEmpty then none else some ⟨Fetch.Network.none, time⟩
  let log ← readLog l.desk.store.path
  match l.step config { width := 100, height := 30, event := event, ended := ended, log := log } with
  | .ok played => return played
  | .error _ => throw (IO.userError "The screen cannot be drawn.")

/-- The keys of a line of input. -/
def keysOf (line : String) : List Session.Key :=
  line.toList.map fun
    | '\n' => .enter
    | '\x1b' => .escape
    | '\x7f' => .backspace
    | c => .char c

partial def converse (config : Config) (input : IO.FS.Stream) (l : Session.Loop) : IO Unit := do
  let (picture, l) ← play config l none
  for line in picture.canvas.lines do
    IO.println line
  let line ← input.getLine
  if line.isEmpty then return ()
  let l ← (keysOf line).foldlM (fun l k => do
    if l.desk.session.closed then return l
    else return (← play config l (some (.key .press k))).2) l
  if l.desk.session.saved != .untried then writeReports l.desk.store
  if l.desk.session.closed then return () else converse config input l

end PageAudit.Main

open PageAudit in
def main (args : List String) : IO UInt32 := do
  let lookup ← Main.environment
  let path ← Main.folder
  match Program.run? Fetch.Network.none (← Main.now) lookup args with
  | some printout => Main.report path lookup printout
  | none =>
    Main.converse (Config.ofLookup lookup) (← IO.getStdin) { desk := { store := { path := path } } }
    return 0
