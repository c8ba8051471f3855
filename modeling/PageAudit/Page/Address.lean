import PageAudit.Text.Blank
import PageAudit.Text.Search
/-!
Addresses as people type them. An address without one of the two web schemes is taken to
be a secure one.
-/
namespace PageAudit

def secureScheme : String := "https://"

def plainScheme : String := "http://"

/-- The address without blanks around it, with a scheme in front. -/
def normalizeUrl (input : String) : String :=
  let address := Text.trimmed input
  if Text.startsWith address plainScheme || Text.startsWith address secureScheme then address
  else secureScheme ++ address

end PageAudit
