import PageAudit.Audit.Result
import PageAudit.Instant.Reader
import PageAudit.Instant.Text
import PageAudit.Json.Reader
import PageAudit.Json.Writer
/-!
Audit results as JSON. Writing gives an object with the fields in a fixed order. Reading
takes the fields of an object in any order and passes over others, or takes an array of all
fields in that order; fields that may be absent may also be null.
-/
namespace PageAudit.Report

/-! ### Writing -/

def ofFinding (f : Finding) : Json :=
  .object [("name", .string f.name), ("description", .string f.description),
    ("fix_steps", .array (f.fixSteps.map .string))]

def ofCategory (r : CategoryResult) : Json :=
  .object [("score", .number (.natural r.score.toNat)),
    ("findings", .array (r.findings.map ofFinding))]

/-- A value that may be absent. -/
def ofOption (f : α → Json) : Option α → Json
  | some a => f a
  | none => .null

def ofReal (x : Binary64) : Json := if x.isFinite then .number (.real x) else .null

def ofResult (r : AuditResult) : Json :=
  .object [
    ("url", .string r.url),
    ("scan_time", .string r.scanTime.exact),
    ("final_url", ofOption .string r.finalUrl),
    ("status", ofOption (fun s => .number (.natural s.toNat)) r.status),
    ("load_time", ofOption ofReal r.loadTime),
    ("security", ofCategory r.security),
    ("performance", ofCategory r.performance),
    ("seo", ofCategory r.seo),
    ("accessibility", ofCategory r.accessibility),
    ("error", ofOption .string r.error)]

/-- The report as indented JSON. -/
def json (r : AuditResult) : String := (ofResult r).pretty

/-! ### Reading -/

/-- The values of the fields of a record, each of them if it is there. -/
def fields? (names : List String) : Json → Option (List (Option Json))
  | .object members => some (names.map fun name => (Json.object members).member? name)
  | .array items => if items.length = names.length then some (items.map some) else none
  | _ => none

/-- A field that may be absent or null. -/
def optional? (read : Json → Option α) (field : Option Json) : Option (Option α) :=
  match Json.present? field with
  | some v => (read v).map some
  | none => some none

def toByte? (v : Json) : Option UInt8 :=
  (v.natural?.filter (· < UInt8.size)).map UInt8.ofNat

def toStatus? (v : Json) : Option UInt16 :=
  (v.natural?.filter (· < UInt16.size)).map UInt16.ofNat

/-- A number of any class. -/
def toReal? : Json → Option Binary64
  | .number (.natural n) => some (Binary64.ofNat n)
  | .number (.negative n) => some (Binary64.ofRatio true n 1)
  | .number (.real x) => some x
  | _ => none

def toFinding? (v : Json) : Option Finding := do
  match ← fields? ["name", "description", "fix_steps"] v with
  | [some name, some description, some steps] =>
    some ⟨← name.text?, ← description.text?, ← (← steps.items?).mapM Json.text?⟩
  | _ => none

def toCategory? (v : Json) : Option CategoryResult := do
  match ← fields? ["score", "findings"] v with
  | [some score, some findings] =>
    some ⟨← toByte? score, ← (← findings.items?).mapM toFinding?⟩
  | _ => none

def resultFields : List String := [
  "url", "scan_time", "final_url", "status", "load_time", "security", "performance", "seo",
  "accessibility", "error"]

/-- The result of a record, with its time in Universal Time. -/
def toResult? (v : Json) : Option AuditResult := do
  match ← fields? resultFields v with
  | [some url, some scanTime, finalUrl, status, loadTime, some security, some performance,
      some seo, some accessibility, error] =>
    some {
      url := ← url.text?
      scanTime := ← scanTime.text?.bind Instant.read?
      finalUrl := ← optional? Json.text? finalUrl
      status := ← optional? toStatus? status
      loadTime := ← optional? toReal? loadTime
      security := ← toCategory? security
      performance := ← toCategory? performance
      seo := ← toCategory? seo
      accessibility := ← toCategory? accessibility
      error := ← optional? Json.text? error }
  | _ => none

/-- The result that a JSON text describes, with its time on the clocks of a zone. -/
def read? (zone : Zone) (s : String) : Option AuditResult :=
  ((Json.read? s).bind toResult?).map (·.inZone zone)

end PageAudit.Report
