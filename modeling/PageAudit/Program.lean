import PageAudit.Audit.Run
import PageAudit.CommandLine
import PageAudit.Log
import PageAudit.Report.FileName
/-!
The program as a command. With an address it audits the page, prints the report and says by
its exit code whether there was a page; what it does meanwhile goes to the log. Without an
address it starts a session, which is not part of this module.
-/
namespace PageAudit.Program

/-- What a run as a command leaves behind. -/
structure Printout where
  exitCode : Nat
  output : String
  log : List Log.Event
  requests : List Fetch.Request

/-! ### What goes to the log -/

/-- The variables that may hold a filter for the log, the first of them first. -/
def filterKeys : List String := ["RUST_LOG", Config.project ++ "_LOGLEVEL"]

/-- The filter that variables give. -/
def logFilter (lookup : String → Option String) : String :=
  (filterKeys.findSome? lookup).getD (Log.programName ++ "=info")

/-- What the log calls a setting that is of no use. -/
def settingName (key : String) : String :=
  if key = Config.timeoutKey then "timeout" else "redirect limit"

/-- The settings as the log shows them. -/
def settingsText (c : Config) : String :=
  "AuditConfig \x7b timeout: " ++ toString c.timeoutSecs ++ "s, max_redirects: " ++
    toString c.maxRedirects ++ ", user_agent: " ++ Log.quoted c.userAgent ++ " \x7d"

def settingsEvents (lookup : String → Option String) (c : Config) : List Log.Event :=
  (Config.ignored lookup).map (fun (key, value) =>
    ⟨.warn, .settings, "Ignoring invalid " ++ settingName key ++ " override.",
      [("key", key), ("value", value)]⟩) ++
  [⟨.info, .program, "Configuration loaded.", [("config", settingsText c)]⟩]

/-- What the log says of a response that came. -/
def responseEvent (status : UInt16) (address : String) : Log.Event :=
  ⟨.info, .fetch, "Received HTTP response.", [("status", toString status), ("final_url", address)]⟩

/-- What went wrong, without the kind of error in front. Once a response came it was its body. -/
def causeEvent (url : String) (received : Bool) : FetchError → Log.Event
  | .client m => ⟨.error, .fetch, "Failed to build HTTP client.", [("error", m)]⟩
  | .body m => ⟨.error, .fetch, "Failed to read response body.",
      [("url", Log.quoted url), ("error", m)]⟩
  | .connect m | .redirect m | .request m => ⟨.error, .fetch, "HTTP request failed.",
      [("url", Log.quoted url), ("error", m)]⟩
  | .timeout _ =>
    if received then ⟨.error, .fetch, "Failed to read response body.",
      [("url", Log.quoted url), ("error", Fetch.bodyFault)]⟩
    else ⟨.error, .fetch, "HTTP request failed.",
      [("url", Log.quoted url), ("error", "error sending request for url (" ++ url ++ ")")]⟩

def scoreFields (r : AuditResult) : List (String × String) :=
  Category.all.map fun c => (c.key, toString (r.category c).score)

def auditEvents (c : Config) (url : String) (r : AuditResult) (outcome : Fetch.Outcome) :
    List Log.Event :=
  [⟨.info, .audit, "Starting audit.", [("url", url)]⟩,
    ⟨.info, .fetch, "Fetching target page.",
      [("url", Log.quoted url), ("timeout_secs", toString c.timeoutSecs)]⟩] ++
  (outcome.received.map fun (status, address) => responseEvent status address).toList ++
  match outcome.result with
  | .error e => [causeEvent url outcome.received.isSome e,
    ⟨.error, .audit, "Audit aborted, target unreachable.", [("url", url), ("error", e.message)]⟩]
  | .ok _ => [⟨.info, .audit, "Audit finished.", ("url", url) :: scoreFields r⟩]

/-! ### The run -/

/-- What a report prints. -/
def printed (r : AuditResult) (json : Bool) : String :=
  if json then Report.json r ++ "\n" else Report.text r

/-- The exit code of a run whose audit had no page. -/
def failureCode : Nat := 1

/-- A run as a command; nothing if the arguments start a session. -/
def run? (net : Fetch.Network) (now : ZonedTime) (lookup : String → Option String)
    (args : List String) : Option Printout :=
  match CommandLine.parse args with
  | .error refusal => some ⟨refusal.exitCode, refusal.output, [], []⟩
  | .ok command => command.url.map fun target =>
    let config := Config.ofLookup lookup
    let url := normalizeUrl target
    let outcome := Fetch.run net config url
    let result := AuditResult.ofFetch url now outcome.result
    { exitCode := if result.error.isSome then failureCode else 0
      output := printed result command.json
      log := settingsEvents lookup config ++ auditEvents config url result outcome
      requests := outcome.requests }

end PageAudit.Program
