import PageAudit.Report.Json
import PageAudit.Report.Text
import PageAudit.Url.Reader
/-!
Names and contents of saved reports. A name tells the host that was audited and the second of
the audit. The characters of a host that are neither letters, digits, points nor hyphens
become underscores, so a name never reaches out of its folder.
-/
namespace PageAudit.Report

/-- The form in which a report is saved. -/
inductive Format where
  | text
  | json
deriving DecidableEq, Repr, Inhabited

def Format.ending : Format → String
  | .text => "txt"
  | .json => "json"

/-- What stands for the host of an address that has none. -/
def unknownHost : String := "site"

/-- The host that an address names. -/
def hostOf (url : String) : String := ((Url.parse? url).bind Url.hostText?).getD unknownHost

/-- Characters that file names take over from hosts. -/
def isNameChar (c : Char) : Bool := c.isAlphanum || c == '.' || c == '-'

def plainName (host : String) : String :=
  String.ofList (host.toList.map fun c => if isNameChar c then c else '_')

/-- The name of the file that a report is saved in. -/
def fileName (r : AuditResult) (format : Format) : String :=
  "audit-" ++ plainName (hostOf r.url) ++ "-" ++ r.scanTime.stamp ++ "." ++ format.ending

/-- What a saved report holds. -/
def contents (r : AuditResult) : Format → String
  | .text => Report.text r
  | .json => Report.json r

end PageAudit.Report
