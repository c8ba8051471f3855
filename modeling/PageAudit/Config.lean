import PageAudit.Decimal.Whole
import PageAudit.Text.Blank
/-!
Settings of an audit. Each is the default unless its own variable gives a usable value:
a whole number above zero for the time limit and the number of redirects, and any text
that is not blank for the name that the auditor goes by.
-/
namespace PageAudit

structure Config where
  /-- Milliseconds that a fetch may take, redirects included. -/
  timeoutMs : Nat
  maxRedirects : Nat
  userAgent : String
deriving DecidableEq, Repr, Inhabited

namespace Config

def default : Config := ⟨15000, 10, "VanguardRS-Audit/0.1.0"⟩

/-- What the names of all variables begin with. -/
def project : String := "VANGUARD_RS_AUDIT"

def timeoutKey : String := project ++ "_TIMEOUT_SECS"

def redirectsKey : String := project ++ "_MAX_REDIRECTS"

def userAgentKey : String := project ++ "_USER_AGENT"

/-- The variables, in the order in which they are looked up. -/
def keys : List String := [timeoutKey, redirectsKey, userAgentKey]

/-- A whole number above zero with blanks around it. -/
def positive? (value : String) : Option Nat :=
  (Decimal.natural64? (Text.trim value.toList)).filter (0 < ·)

/-- The settings that variables give. -/
def ofLookup (lookup : String → Option String) : Config where
  timeoutMs := (((lookup timeoutKey).bind positive?).map (· * 1000)).getD default.timeoutMs
  maxRedirects := ((lookup redirectsKey).bind positive?).getD default.maxRedirects
  userAgent :=
    ((lookup userAgentKey).filter fun v => !Text.isBlankText v).getD default.userAgent

def timeoutSecs (c : Config) : Nat := c.timeoutMs / 1000

/-- Variables that are set to something unusable, with their values. -/
def ignored (lookup : String → Option String) : List (String × String) :=
  [timeoutKey, redirectsKey].filterMap fun key =>
    ((lookup key).filter fun v => (positive? v).isNone).map fun v => (key, v)

end Config

end PageAudit
