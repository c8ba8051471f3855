import PageAudit.Rule.Basic
import PageAudit.Text.Blank
/-!
Search engine rules: the title, the description, one main heading, and alternative texts.
Lengths are counted in characters.
-/
namespace PageAudit.Rule.Seo

def maxTitleLength : Nat := 60

def maxDescriptionLength : Nat := 160

/-- The text of the first title of a document, if it is not blank. -/
def title? (d : Html.Document) : Option String :=
  ((d.findAll "title").head?.map (·.innerText)).filter fun t => !Text.isBlankText t

/-- A title is missing or too long, never both. It is measured with the blanks around it. -/
def title : Rule where
  name := "title"
  penalties s :=
    match title? s.document with
    | none => [⟨20, Finding.ofCode Knowledge.titleMissing.code "Page has no title tag or empty title"⟩]
    | some t =>
      if t.length ≤ maxTitleLength then []
      else [⟨10, Finding.ofCode Knowledge.titleTooLong.code
        ("Title is " ++ toString t.length ++ " characters (should be 50-60)")⟩]

/-- The description of a document, if it is not empty. -/
def description? (d : Html.Document) : Option String :=
  ((d.findFirst "meta" "name" "description").bind (·.attribute? "content")).filter (!·.isEmpty)

/-- A description is missing or too long, never both. -/
def description : Rule where
  name := "meta-description"
  penalties s :=
    match description? s.document with
    | none => [⟨15, Finding.ofCode Knowledge.descriptionMissing.code "Page has no meta description"⟩]
    | some t =>
      if t.length ≤ maxDescriptionLength then []
      else [⟨5, Finding.ofCode Knowledge.descriptionTooLong.code
        ("Meta description is " ++ toString t.length ++ " characters")⟩]

/-- Exactly one main heading is expected. -/
def heading : Rule where
  name := "h1"
  penalties s :=
    match s.document.count "h1" with
    | 0 => [⟨15, Finding.ofCode Knowledge.headingMissing.code "Page has no H1 heading tag"⟩]
    | 1 => []
    | n => [⟨10, Finding.ofCode Knowledge.headingRepeated.code
        ("Page has " ++ toString n ++ " H1 tags (should have only one)")⟩]

def altText : Rule where
  name := "seo-alt-text"
  penalties s :=
    match s.document.imagesMissingAlt with
    | 0 => []
    | n => [⟨10, Finding.ofCode Knowledge.altTextMissing.code (toString n ++ " images missing alt text")⟩]

def rules : List Rule := [title, description, heading, altText]

end PageAudit.Rule.Seo
