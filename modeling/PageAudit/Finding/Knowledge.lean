import PageAudit.Category
import PageAudit.Finding.Basic
import PageAudit.Finding.Template
/-!
The knowledge base: every finding that the rules can raise, with its title and the steps
to fix it. Rules decide whether something is found and what was measured; the wording is
here. A finding is built from a code (`Finding.about`), and a code that is not in the base
gives a bare finding of that name.
-/
namespace PageAudit

/-- What the base knows of one kind of finding. -/
structure Knowledge where
  code : String
  title : Template
  category : Category
  fixSteps : List Template
deriving DecidableEq, Repr, Inhabited

namespace Knowledge

def insecure : Knowledge where
  code := "SEC_HTTPS_MISSING"
  title := "HTTPS Not Enabled"
  category := .security
  fixSteps := [
    "Purchase and install SSL certificate",
    "Configure server to redirect HTTP to HTTPS",
    "Update all internal links to use HTTPS",
    "Test all functionality after HTTPS migration"]

def headerMissing : Knowledge where
  code := "SEC_HEADER_MISSING"
  title := .around "Missing " ""
  category := .security
  fixSteps := [
    .around "Add " " header to server configuration",
    "Configure appropriate values for the header",
    "Test the header implementation",
    "Monitor for any functionality issues"]

def serverDisclosed : Knowledge where
  code := "SEC_SERVER_DISCLOSURE"
  title := "Server Information Disclosure"
  category := .security
  fixSteps := [
    "Remove or modify server information headers",
    "Configure server to hide version information",
    "Use generic server names",
    "Regularly audit server configuration"]

def databaseError : Knowledge where
  code := "SEC_SQL_ERROR"
  title := "SQL Error Information Disclosure"
  category := .security
  fixSteps := [
    "Implement proper error handling",
    "Use parameterized queries",
    "Configure custom error pages",
    "Enable error logging instead of user display"]

def scriptPattern : Knowledge where
  code := "SEC_XSS_PATTERN"
  title := "Potential XSS Vulnerability"
  category := .security
  fixSteps := [
    "Sanitize all user inputs",
    "Use Content Security Policy (CSP)",
    "Implement output encoding",
    "Regular security testing"]

def slowLoad : Knowledge where
  code := "PERF_SLOW_LOAD"
  title := "Slow Page Load Time"
  category := .performance
  fixSteps := [
    "Optimize server response time",
    "Minimize HTTP requests",
    "Enable compression (Gzip)",
    "Use CDN for static assets",
    "Optimize images and media files"]

def moderateLoad : Knowledge where
  code := "PERF_MODERATE_LOAD"
  title := "Moderate Page Load Time"
  category := .performance
  fixSteps := [
    "Optimize server configuration",
    "Reduce server-side processing",
    "Implement caching strategies",
    "Optimize database queries"]

def largeImages : Knowledge where
  code := "PERF_LARGE_IMAGES"
  title := "Large Images Detected"
  category := .performance
  fixSteps := [
    "Resize images to appropriate dimensions",
    "Use responsive images with srcset",
    "Implement lazy loading",
    "Optimize image formats (WebP, AVIF)",
    "Use image compression tools"]

def manyScripts : Knowledge where
  code := "PERF_TOO_MANY_SCRIPTS"
  title := "Too Many JavaScript Files"
  category := .performance
  fixSteps := [
    "Bundle JavaScript files",
    "Minify JavaScript code",
    "Use async/defer attributes",
    "Remove unused JavaScript",
    "Implement code splitting"]

def manyStylesheets : Knowledge where
  code := "PERF_TOO_MANY_STYLESHEETS"
  title := "Too Many CSS Files"
  category := .performance
  fixSteps := [
    "Bundle CSS files",
    "Minify CSS code",
    "Remove unused CSS",
    "Use critical CSS inline",
    "Implement CSS optimization"]

def titleMissing : Knowledge where
  code := "SEO_TITLE_MISSING"
  title := "Missing Title Tag"
  category := .seo
  fixSteps := [
    "Add a unique, descriptive title tag",
    "Keep title between 50-60 characters",
    "Include primary keyword naturally",
    "Make title compelling for users"]

def titleTooLong : Knowledge where
  code := "SEO_TITLE_TOO_LONG"
  title := "Title Too Long"
  category := .seo
  fixSteps := [
    "Shorten title to 50-60 characters",
    "Focus on primary keyword",
    "Make it compelling and clear",
    "Test in search results preview"]

def descriptionMissing : Knowledge where
  code := "SEO_META_DESCRIPTION_MISSING"
  title := "Missing Meta Description"
  category := .seo
  fixSteps := [
    "Add unique meta description",
    "Keep it between 150-160 characters",
    "Include primary keyword naturally",
    "Make it compelling for click-throughs"]

def descriptionTooLong : Knowledge where
  code := "SEO_META_DESCRIPTION_TOO_LONG"
  title := "Meta Description Too Long"
  category := .seo
  fixSteps := [
    "Shorten to 150-160 characters",
    "Focus on compelling description",
    "Include primary keyword",
    "Test in search results"]

def headingMissing : Knowledge where
  code := "SEO_H1_MISSING"
  title := "Missing H1 Tag"
  category := .seo
  fixSteps := [
    "Add a single H1 tag per page",
    "Include primary keyword naturally",
    "Make it descriptive and compelling",
    "Ensure it matches page content"]

def headingRepeated : Knowledge where
  code := "SEO_H1_MULTIPLE"
  title := "Multiple H1 Tags"
  category := .seo
  fixSteps := [
    "Use only one H1 tag per page",
    "Convert extra H1s to H2 or H3",
    "Maintain proper heading hierarchy",
    "Ensure H1 represents main topic"]

def altTextMissing : Knowledge where
  code := "SEO_ALT_TEXT_MISSING"
  title := "Images Missing Alt Text"
  category := .seo
  fixSteps := [
    "Add descriptive alt text to all images",
    "Include relevant keywords naturally",
    "Describe image content clearly",
    "Use alt=\"\" for decorative images"]

def altTextUnspoken : Knowledge where
  code := "A11Y_ALT_TEXT_MISSING"
  title := "Images Missing Alt Text"
  category := .accessibility
  fixSteps := [
    "Add descriptive alt text to all images",
    "Describe image content clearly",
    "Use alt=\"\" for decorative images",
    "Test with screen readers"]

def labelMissing : Knowledge where
  code := "A11Y_FORM_LABEL_MISSING"
  title := "Form Input Missing Label"
  category := .accessibility
  fixSteps := [
    "Add unique ID to input field",
    "Create label with matching \"for\" attribute",
    "Use descriptive label text",
    "Test with screen readers"]

def contrastUnchecked : Knowledge where
  code := "A11Y_COLOR_CONTRAST"
  title := "Color Contrast Check Needed"
  category := .accessibility
  fixSteps := [
    "Test color contrast ratios (4.5:1 minimum)",
    "Use high contrast color combinations",
    "Test with color blindness simulators",
    "Provide alternative color schemes"]

def nothingToFocus : Knowledge where
  code := "A11Y_KEYBOARD_NAVIGATION"
  title := "Keyboard Navigation Issues"
  category := .accessibility
  fixSteps := [
    "Ensure all interactive elements are keyboard accessible",
    "Add skip navigation links",
    "Test tab order and focus indicators",
    "Implement proper ARIA labels"]

/-- The whole base. -/
def base : List Knowledge := [
  insecure, headerMissing, serverDisclosed, databaseError, scriptPattern, slowLoad, moderateLoad,
  largeImages, manyScripts, manyStylesheets, titleMissing, titleTooLong, descriptionMissing,
  descriptionTooLong, headingMissing, headingRepeated, altTextMissing, altTextUnspoken,
  labelMissing, contrastUnchecked, nothingToFocus]

/-- What the base knows under a code. -/
def find? (code : String) : Option Knowledge := base.find? (·.code == code)

/-- The finding about a subject, with a description of what was measured. -/
def finding (k : Knowledge) (subject description : String) : Finding :=
  ⟨k.title.fill subject, description, k.fixSteps.map (·.fill subject)⟩

end Knowledge

namespace Finding

/-- The finding of a code about a subject. -/
def about (code subject description : String) : Finding :=
  match Knowledge.find? code with
  | some k => k.finding subject description
  | none => ⟨code, description, []⟩

/-- The finding of a code that needs no subject. -/
def ofCode (code description : String) : Finding := about code "" description

end Finding

end PageAudit
