import PageAudit.Decimal.Fixed
import PageAudit.Decimal.Whole
import PageAudit.Rule.Basic
import PageAudit.Text.Blank
import PageAudit.Text.Words
/-!
Performance rules: the time a page takes, images declared larger than a full screen, and
the numbers of scripts and stylesheets.
-/
namespace PageAudit.Rule.Performance

/-- Three seconds: beyond this a page is slow. -/
def slowLoad : Binary64 := ⟨0x4008000000000000⟩

/-- One second and a half: beyond this a page could be faster. -/
def moderateLoad : Binary64 := ⟨0x3FF8000000000000⟩

def maxImageWidth : Int := 1920

def maxImageHeight : Int := 1080

def maxScripts : Nat := 10

def maxStylesheets : Nat := 5

/-- Slow or moderate, never both. -/
def loadTime : Rule where
  name := "load-time"
  penalties s :=
    let t := s.page.loadTime
    if slowLoad.lt t then
      [⟨20, Finding.ofCode Knowledge.slowLoad.code ("Page takes " ++ Decimal.fixed2 t ++
        " seconds to load (should be under 3 seconds)")⟩]
    else if moderateLoad.lt t then
      [⟨10, Finding.ofCode Knowledge.moderateLoad.code ("Page takes " ++ Decimal.fixed2 t ++
        " seconds to load (could be faster)")⟩]
    else []

/-- A declared dimension: a whole number with blanks around it. -/
def dimension? (value : String) : Option Int := Decimal.integer64? (Text.trim value.toList)

/-- Whether an image declares both dimensions and one of them is too large. -/
def isOversized (image : Html.Node) : Bool :=
  match (image.attribute? "width").bind dimension?, (image.attribute? "height").bind dimension? with
  | some w, some h => maxImageWidth < w || maxImageHeight < h
  | _, _ => false

def oversizedImages (d : Html.Document) : Nat := ((d.findAll "img").filter isOversized).length

/-- One penalty when any image is oversized. -/
def imagesFit : Rule where
  name := "oversized-images"
  penalties s :=
    match oversizedImages s.document with
    | 0 => []
    | n => [⟨10, Finding.ofCode Knowledge.largeImages.code
        ("Found " ++ toString n ++ " images that may be too large for web use")⟩]

def fewScripts : Rule where
  name := "script-count"
  penalties s :=
    let n := s.document.count "script"
    if n ≤ maxScripts then []
    else [⟨5, Finding.ofCode Knowledge.manyScripts.code
      ("Found " ++ toString n ++ " script tags (consider bundling)")⟩]

/-- The links of a document that name a stylesheet among their relations. -/
def stylesheets (d : Html.Document) : Nat := (d.findAllWithToken "link" "rel" "stylesheet").length

def fewStylesheets : Rule where
  name := "stylesheet-count"
  penalties s :=
    let n := stylesheets s.document
    if n ≤ maxStylesheets then []
    else [⟨5, Finding.ofCode Knowledge.manyStylesheets.code
      ("Found " ++ toString n ++ " stylesheet links (consider bundling)")⟩]

def rules : List Rule := [loadTime, imagesFit, fewScripts, fewStylesheets]

end PageAudit.Rule.Performance
