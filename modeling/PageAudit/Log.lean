import PageAudit.Text.Mark
import PageAudit.Text.Search
/-!
The log of a run. An event has a level, the part of the program that it comes from, a message
and named values. A filter is a list of directives, each a level for the parts whose names
begin with its own name; of several that fit a part the longest name decides, and
parts that no directive fits are silent.
-/
namespace PageAudit.Log

inductive Level where
  | error
  | warn
  | info
  | debug
  | trace
deriving DecidableEq, Repr

namespace Level

/-- How much is said at a level and the ones before it. -/
def rank : Level → Nat
  | .error => 1
  | .warn => 2
  | .info => 3
  | .debug => 4
  | .trace => 5

/-- The level's name, as wide as the widest. -/
def label : Level → String
  | .error => "ERROR"
  | .warn => " WARN"
  | .info => " INFO"
  | .debug => "DEBUG"
  | .trace => "TRACE"

end Level

/-- The parts of the program that report events. -/
inductive Part where
  | program
  | settings
  | audit
  | fetch
deriving DecidableEq, Repr

/-- What all names of parts begin with. -/
def programName : String := "vanguard_rs_audit"

/-- The name that a filter knows a part by. -/
def Part.name : Part → String
  | .program => programName
  | .settings => programName ++ "::config"
  | .audit => programName ++ "::core::auditor"
  | .fetch => programName ++ "::core::fetcher"

structure Event where
  level : Level
  part : Part
  message : String
  /-- Names and values, the values as they are written. -/
  fields : List (String × String)
deriving DecidableEq, Repr

/-- The event in writing, without the time. -/
def Event.line (e : Event) : String :=
  e.level.label ++ " " ++ e.message ++
    String.join (e.fields.map fun (name, value) => " " ++ name ++ "=" ++ value)

/-! ### Quoted values -/

def escaped (c : Char) : String :=
  if c = '"' then "\\\"" else if c = '\\' then "\\\\"
  else if c = '\n' then "\\n" else if c = '\r' then "\\r" else if c = '\t' then "\\t"
  else if c = '\x00' then "\\0"
  else if c.toNat < 32 || (127 ≤ c.toNat && c.toNat < 160) || Text.Mark.isNonspacing c then
    "\\u\x7b" ++ String.ofList (Nat.toDigits 16 c.toNat) ++ "\x7d"
  else c.toString

/-- A value between quotes. -/
def quoted (s : String) : String := "\"" ++ String.join (s.toList.map escaped) ++ "\""

/-! ### Filters -/

/-- How much the parts whose names begin with `name` report, as a rank of levels. -/
structure Directive where
  name : String
  rank : Nat
deriving DecidableEq, Repr

/-- The rank that a level's name or number denotes. -/
def rank? (text : String) : Option Nat :=
  let text := text.toLower
  (["off", "error", "warn", "info", "debug", "trace"].idxOf? text) <|>
    (["0", "1", "2", "3", "4", "5"].idxOf? text)

/-- A directive: a level for all parts, the name of parts, or both with `=` between. -/
def directive? (text : String) : Option Directive :=
  match text.splitOn "=" with
  | [one] => some (match rank? one with
    | some rank => ⟨"", rank⟩
    | none => ⟨one, Level.trace.rank⟩)
  | [name, level] => (rank? level).map fun rank => ⟨name, rank⟩
  | _ => none

/-- The directives of a filter; without any, errors alone are reported. -/
def directives (filter : String) : List Directive :=
  match ((filter.splitOn ",").filter (· != "")).filterMap fun d =>
      directive? d.trimAscii.toString with
  | [] => [⟨"", Level.error.rank⟩]
  | found => found

/-- The directive that decides about a part. -/
def deciding? (filter : List Directive) (part : Part) : Option Directive :=
  (filter.filter fun d => Text.startsWith part.name d.name).foldl (fun best d =>
    match best with
    | some b => if b.name.length ≤ d.name.length then some d else some b
    | none => some d) none

/-- Whether a filter lets an event through. -/
def shows (filter : List Directive) (e : Event) : Bool :=
  match deciding? filter e.part with
  | some d => e.level.rank ≤ d.rank
  | none => false

/-- The lines that a filter lets through. -/
def lines (filter : String) (events : List Event) : List String :=
  (events.filter (shows (directives filter))).map Event.line

end PageAudit.Log
