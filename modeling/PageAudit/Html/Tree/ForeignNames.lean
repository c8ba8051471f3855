import PageAudit.Html.Tree.Arena
/-!
Names of the foreign vocabularies. Tags come in lower case; SVG spells some of its element
and attribute names with capitals, and attributes with a colon belong to vocabularies of
their own.
-/
namespace PageAudit.Html.Foreign

/-- SVG element names that are not in lower case. -/
def svgElements : List String := [
  "altGlyph", "altGlyphDef", "altGlyphItem", "animateColor", "animateMotion", "animateTransform",
  "clipPath", "feBlend", "feColorMatrix", "feComponentTransfer", "feComposite",
  "feConvolveMatrix", "feDiffuseLighting", "feDisplacementMap", "feDistantLight", "feDropShadow",
  "feFlood", "feFuncA", "feFuncB", "feFuncG", "feFuncR", "feGaussianBlur", "feImage", "feMerge",
  "feMergeNode", "feMorphology", "feOffset", "fePointLight", "feSpecularLighting", "feSpotLight",
  "feTile", "feTurbulence", "foreignObject", "glyphRef", "linearGradient", "radialGradient",
  "textPath"]

/-- SVG attribute names that are not in lower case. -/
def svgAttributes : List String := [
  "attributeName", "attributeType", "baseFrequency", "baseProfile", "calcMode", "clipPathUnits",
  "diffuseConstant", "edgeMode", "filterUnits", "glyphRef", "gradientTransform", "gradientUnits",
  "kernelMatrix", "kernelUnitLength", "keyPoints", "keySplines", "keyTimes", "lengthAdjust",
  "limitingConeAngle", "markerHeight", "markerUnits", "markerWidth", "maskContentUnits",
  "maskUnits", "numOctaves", "pathLength", "patternContentUnits", "patternTransform",
  "patternUnits", "pointsAtX", "pointsAtY", "pointsAtZ", "preserveAlpha", "preserveAspectRatio",
  "primitiveUnits", "refX", "refY", "repeatCount", "repeatDur", "requiredExtensions",
  "requiredFeatures", "specularConstant", "specularExponent", "spreadMethod", "startOffset",
  "stdDeviation", "stitchTiles", "surfaceScale", "systemLanguage", "tableValues", "targetX",
  "targetY", "textLength", "viewBox", "viewTarget", "xChannelSelector", "yChannelSelector",
  "zoomAndPan"]

/-- The name of a list that a name in lower case stands for. -/
def spelled (names : List String) (lower : String) : String :=
  (names.find? (·.toLower == lower)).getD lower

/-- Attributes that belong to vocabularies of their own, with their names there. -/
def spaced : List (String × String) := [
  ("xlink:actuate", "actuate"), ("xlink:arcrole", "arcrole"), ("xlink:href", "href"),
  ("xlink:role", "role"), ("xlink:show", "show"), ("xlink:title", "title"),
  ("xlink:type", "type"), ("xml:lang", "lang"), ("xml:space", "space"), ("xmlns", "xmlns"),
  ("xmlns:xlink", "xlink")]

/-- An attribute of an element of a foreign vocabulary. -/
def adjusted (v : Vocabulary) (a : String × String) : Attribute :=
  match spaced.find? (·.1 == a.1) with
  | some (_, name) => ⟨name, a.2, false⟩
  | none =>
    let name := match v with
      | .svg => spelled svgAttributes a.1
      | .math => if a.1 == "definitionurl" then "definitionURL" else a.1
      | .html => a.1
    ⟨name, a.2, true⟩

/-- The name of an element inside an element of a foreign vocabulary. -/
def elementName (v : Vocabulary) (label : String) : ElementName :=
  ⟨v, if v == .svg then spelled svgElements label else label⟩

/-- HTML start tags that end foreign content. -/
def breaksOut : List String := [
  "b", "big", "blockquote", "body", "br", "center", "code", "dd", "div", "dl", "dt", "em", "embed",
  "h1", "h2", "h3", "h4", "h5", "h6", "head", "hr", "i", "img", "li", "listing", "menu", "meta",
  "nobr", "ol", "p", "pre", "ruby", "s", "small", "span", "strong", "strike", "sub", "sup",
  "table", "tt", "u", "ul", "var"]

end PageAudit.Html.Foreign
