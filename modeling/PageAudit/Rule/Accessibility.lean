import PageAudit.Rule.Basic
/-!
Accessibility rules: alternative texts, labels of form fields, colours that need a check of
their contrast, and something to reach with the keyboard.
-/
namespace PageAudit.Rule.Accessibility

/-- Types of input that need no label. -/
def selfExplaining : List String := ["hidden", "submit", "button"]

/-- Styles that set a colour by its number. -/
def colorPatterns : List String := ["color: #", "background-color: #"]

def altText : Rule where
  name := "a11y-alt-text"
  penalties s :=
    match s.document.imagesMissingAlt with
    | 0 => []
    | n => [⟨15, Finding.ofCode Knowledge.altTextUnspoken.code
        (toString n ++ " images missing alt text for screen readers")⟩]

/-- Whether a label of the document is for the input. -/
def isLabelled (d : Html.Document) (input : Html.Node) : Bool :=
  match (input.attribute? "id").filter (!·.isEmpty) with
  | some id => (d.findFirst "label" "for" id).isSome
  | none => false

def needsLabel (input : Html.Node) : Bool :=
  match input.attribute? "type" with
  | some kind => !selfExplaining.contains kind
  | none => true

/-- Whether a form has an input that needs a label and has none. -/
def lacksLabel (d : Html.Document) (form : Html.Node) : Bool :=
  (Html.Document.findWithin form "input").any fun input => needsLabel input && !isLabelled d input

/-- One penalty for each form with an input that lacks its label. -/
def formLabels : Rule where
  name := "form-labels"
  penalties s :=
    ((s.document.findAll "form").filter (lacksLabel s.document)).map fun _ =>
      ⟨5, Finding.ofCode Knowledge.labelMissing.code "Form input field missing proper label association"⟩

/-- Colours set by number have to be checked by hand. -/
def colorContrast : Rule where
  name := "color-contrast"
  penalties s :=
    if colorPatterns.any s.mentions then
      [⟨5, Finding.ofCode Knowledge.contrastUnchecked.code
        "Page uses custom colors - verify contrast ratios"⟩]
    else []

/-- A page without links and buttons has nothing to reach with the keyboard. -/
def keyboard : Rule where
  name := "keyboard-navigation"
  penalties s :=
    if s.document.contains "a" || s.document.contains "button" then []
    else [⟨10, Finding.ofCode Knowledge.nothingToFocus.code "Page may have keyboard navigation problems"⟩]

def rules : List Rule := [altText, formLabels, colorContrast, keyboard]

end PageAudit.Rule.Accessibility
