import PageAudit.Page.Address
import PageAudit.Rule.Basic
/-!
Security rules: a secure address, the headers that every response should carry, headers
that give the server away, and texts in the body that leak errors or invite injection.
-/
namespace PageAudit.Rule.Security

/-- Security headers with what their absence means, in report order. -/
def securityHeaders : List (String × String) := [
  ("X-Frame-Options", "Missing X-Frame-Options header (clickjacking protection)"),
  ("X-Content-Type-Options", "Missing X-Content-Type-Options header (MIME sniffing protection)"),
  ("X-XSS-Protection", "Missing X-XSS-Protection header (XSS protection)"),
  ("Strict-Transport-Security", "Missing HSTS header (HTTPS enforcement)"),
  ("Content-Security-Policy", "Missing CSP header (content security policy)"),
  ("Referrer-Policy", "Missing Referrer-Policy header (referrer control)")]

/-- Headers that identify the server, in report order. -/
def serverHeaders : List String := ["Server", "X-Powered-By", "X-AspNet-Version"]

/-- Texts of databases that report an error. -/
def databaseErrors : List String :=
  ["mysql_error", "oracle error", "sql server error", "postgresql error"]

/-- Markup that hints at injected scripts. -/
def injectionPatterns : List String := ["<script>", "javascript:", "onerror=", "onload="]

/-- A page asked for without encryption. -/
def secureAddress : Rule where
  name := "https"
  penalties s :=
    if Text.startsWith s.url secureScheme then []
    else [⟨25, Finding.ofCode Knowledge.insecure.code "Website is not using secure HTTPS connection"⟩]

/-- One penalty for each security header that is absent. -/
def headersPresent : Rule where
  name := "security-headers"
  penalties s :=
    (securityHeaders.filter fun h => !s.page.hasHeader h.1).map fun h =>
      ⟨5, Finding.about Knowledge.headerMissing.code h.1 h.2⟩

/-- One penalty for each header that identifies the server. -/
def serverHidden : Rule where
  name := "server-disclosure"
  penalties s :=
    serverHeaders.filterMap fun h => (s.page.header? h).map fun value =>
      ⟨3, Finding.ofCode Knowledge.serverDisclosed.code (h ++ " header reveals server information: " ++ value)⟩

/-- One penalty for each database error that the body shows. -/
def noDatabaseErrors : Rule where
  name := "database-errors"
  penalties s :=
    (databaseErrors.filter s.mentions).map fun p =>
      ⟨15, Finding.ofCode Knowledge.databaseError.code ("Database error information is exposed: " ++ p)⟩

/-- One penalty for each pattern of injection that the body shows. -/
def noInjection : Rule where
  name := "script-injection"
  penalties s :=
    (injectionPatterns.filter s.mentions).map fun p =>
      ⟨10, Finding.ofCode Knowledge.scriptPattern.code ("Potentially dangerous pattern found: " ++ p)⟩

def rules : List Rule :=
  [secureAddress, headersPresent, serverHidden, noDatabaseErrors, noInjection]

end PageAudit.Rule.Security
