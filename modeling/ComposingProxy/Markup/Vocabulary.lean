import ComposingProxy.Markup.Token
import ComposingProxy.Text.Ascii
import ComposingProxy.Text.Search

/-!
# Vocabulary

What reading a page knows about the names of elements: which ones bound the search for
an open element, which ones may be closed without an end tag, and how names and
attributes of drawings and formulas are spelled.
-/

namespace ComposingProxy.Markup

namespace Name

/-- Whether a name is one of these HTML names. -/
def isOneOf (name : Name) (tags : List String) : Bool := name.space == .html && tags.elem name.tag

/-- Whether a name is this HTML name. -/
def isHtml (name : Name) (tag : String) : Bool := name.space == .html && name.tag == tag

/-- Elements of formulas that hold text. -/
def isFormulaText (name : Name) : Bool :=
  name.space == .mathml && ["mi", "mo", "mn", "ms", "mtext"].elem name.tag

/-- Elements of drawings that hold HTML. -/
def isDrawingHtml (name : Name) : Bool :=
  name.space == .svg && ["foreignObject", "desc", "title"].elem name.tag

/-- Elements of other vocabularies that hold HTML. -/
def holdsHtml (name : Name) : Bool := name.isFormulaText || name.isDrawingHtml

end Name

/-! ## Groups of elements -/

/-- Elements that a stray end tag does not close. -/
def specialTags : List String :=
  ["address", "applet", "area", "article", "aside", "base", "basefont", "bgsound", "blockquote",
    "body", "br", "button", "caption", "center", "col", "colgroup", "dd", "details", "dir", "div",
    "dl", "dt", "embed", "fieldset", "figcaption", "figure", "footer", "form", "frame", "frameset",
    "h1", "h2", "h3", "h4", "h5", "h6", "head", "header", "hgroup", "hr", "html", "iframe", "img",
    "input", "isindex", "li", "link", "listing", "main", "marquee", "menu", "meta", "nav",
    "noembed", "noframes", "noscript", "object", "ol", "p", "param", "plaintext", "pre", "script",
    "section", "select", "source", "style", "summary", "table", "tbody", "td", "template",
    "textarea", "tfoot", "th", "thead", "title", "tr", "track", "ul", "wbr", "xmp"]

/-- Elements that close without an end tag. -/
def impliedEndTags : List String :=
  ["dd", "dt", "li", "option", "optgroup", "p", "rb", "rp", "rt", "rtc"]

/-- Elements that close without an end tag at the end of a template. -/
def templateImpliedEndTags : List String :=
  impliedEndTags ++ ["caption", "colgroup", "tbody", "td", "tfoot", "th", "thead", "tr"]

/-- Headings. -/
def headingTags : List String := ["h1", "h2", "h3", "h4", "h5", "h6"]

/-- Elements whose text moves in front of the table. -/
def tableTags : List String := ["table", "tbody", "tfoot", "thead", "tr"]

/-! ## How far an open element is seen -/

/-- The elements that bound the search for an open element. -/
abbrev Scope := Name → Bool

/-- Elements whose contents stand apart from what is around them. -/
def Scope.default : Scope := fun name =>
  name.holdsHtml ||
    name.isOneOf
      ["applet", "caption", "html", "table", "td", "th", "marquee", "object", "template"]

/-- The bounds of list items. -/
def Scope.list : Scope := fun name => Scope.default name || name.isOneOf ["ol", "ul"]

/-- The bounds of paragraphs. -/
def Scope.button : Scope := fun name => Scope.default name || name.isHtml "button"

/-- The bounds of the parts of a table. -/
def Scope.table : Scope := fun name => name.isOneOf ["html", "table", "template"]

/-- The bounds of a selection: all but options and their groups. -/
def Scope.select : Scope := fun name => !name.isOneOf ["optgroup", "option"]

/-- Where closing stops before a row of a part of a table. -/
def Scope.tableBody : Scope := fun name =>
  name.isOneOf ["tbody", "tfoot", "thead", "template", "html"]

/-- Where closing stops before a cell of a row. -/
def Scope.tableRow : Scope := fun name => name.isOneOf ["tr", "template", "html"]

/-! ## Spelling in other vocabularies -/

/-- Names of elements of drawings that have capitals. -/
def drawingTags : List String :=
  ["altGlyph", "altGlyphDef", "altGlyphItem", "animateColor", "animateMotion", "animateTransform",
    "clipPath", "feBlend", "feColorMatrix", "feComponentTransfer", "feComposite",
    "feConvolveMatrix", "feDiffuseLighting", "feDisplacementMap", "feDistantLight", "feDropShadow",
    "feFlood", "feFuncA", "feFuncB", "feFuncG", "feFuncR", "feGaussianBlur", "feImage", "feMerge",
    "feMergeNode", "feMorphology", "feOffset", "fePointLight", "feSpecularLighting", "feSpotLight",
    "feTile", "feTurbulence", "foreignObject", "glyphRef", "linearGradient", "radialGradient",
    "textPath"]

/-- Names of attributes of drawings that have capitals. -/
def drawingAttrs : List String :=
  ["attributeName", "attributeType", "baseFrequency", "baseProfile", "calcMode", "clipPathUnits",
    "diffuseConstant", "edgeMode", "filterUnits", "glyphRef", "gradientTransform", "gradientUnits",
    "kernelMatrix", "kernelUnitLength", "keyPoints", "keySplines", "keyTimes", "lengthAdjust",
    "limitingConeAngle", "markerHeight", "markerUnits", "markerWidth", "maskContentUnits",
    "maskUnits", "numOctaves", "pathLength", "patternContentUnits", "patternTransform",
    "patternUnits", "pointsAtX", "pointsAtY", "pointsAtZ", "preserveAlpha", "preserveAspectRatio",
    "primitiveUnits", "refX", "refY", "repeatCount", "repeatDur", "requiredExtensions",
    "requiredFeatures", "specularConstant", "specularExponent", "spreadMethod", "startOffset",
    "stdDeviation", "stitchTiles", "surfaceScale", "systemLanguage", "tableValues", "targetX",
    "targetY", "textLength", "viewBox", "viewTarget", "xChannelSelector", "yChannelSelector",
    "zoomAndPan"]

/-- The spelling with capitals of a name in small letters, if a list has it. -/
def respell (names : List String) (name : String) : String :=
  (names.find? fun candidate => Text.toLowerAscii candidate == name).getD name

/-- The attribute names that belong to vocabularies of their own. -/
def foreignAttrName (name : Name) : Name :=
  match name.tag with
  | "xlink:actuate" => ⟨.xlink, "actuate", some "xlink"⟩
  | "xlink:arcrole" => ⟨.xlink, "arcrole", some "xlink"⟩
  | "xlink:href" => ⟨.xlink, "href", some "xlink"⟩
  | "xlink:role" => ⟨.xlink, "role", some "xlink"⟩
  | "xlink:show" => ⟨.xlink, "show", some "xlink"⟩
  | "xlink:title" => ⟨.xlink, "title", some "xlink"⟩
  | "xlink:type" => ⟨.xlink, "type", some "xlink"⟩
  | "xml:lang" => ⟨.xml, "lang", some "xml"⟩
  | "xml:space" => ⟨.xml, "space", some "xml"⟩
  | "xmlns" => ⟨.xmlns, "xmlns", some ""⟩
  | "xmlns:xlink" => ⟨.xmlns, "xlink", some "xmlns"⟩
  | _ => name

namespace Tag

/-- Attributes under other names. -/
def renameAttrs (f : Name → Name) (tag : Tag) : Tag :=
  { tag with attrs := tag.attrs.map fun entry => { entry with name := f entry.name } }

/-- A tag as it is spelled in a vocabulary, for the element that opens the vocabulary. -/
def opening (space : Namespace) (tag : Tag) : Tag :=
  let tag :=
    match space with
    | .mathml => tag.renameAttrs fun name => { name with tag := respell ["definitionURL"] name.tag }
    | .svg => tag.renameAttrs fun name => { name with tag := respell drawingAttrs name.tag }
    | _ => tag
  tag.renameAttrs foreignAttrName

/-- A tag as it is spelled inside a vocabulary. -/
def within (space : Namespace) (tag : Tag) : Tag :=
  let tag := tag.opening space
  if space = .svg then { tag with name := respell drawingTags tag.name } else tag

end Tag

/-! ## Document types -/

/-- Beginnings of public identifiers that ask for legacy layout. -/
def legacyPublicIds : List String :=
  ["-//advasoft ltd//dtd html 3.0 aswedit + extensions//",
    "-//as//dtd html 3.0 aswedit + extensions//", "-//ietf//dtd html 2.0 level 1//",
    "-//ietf//dtd html 2.0 level 2//", "-//ietf//dtd html 2.0 strict level 1//",
    "-//ietf//dtd html 2.0 strict level 2//", "-//ietf//dtd html 2.0 strict//",
    "-//ietf//dtd html 2.0//", "-//ietf//dtd html 2.1e//", "-//ietf//dtd html 3.0//",
    "-//ietf//dtd html 3.2 final//", "-//ietf//dtd html 3.2//", "-//ietf//dtd html 3//",
    "-//ietf//dtd html level 0//", "-//ietf//dtd html level 1//", "-//ietf//dtd html level 2//",
    "-//ietf//dtd html level 3//", "-//ietf//dtd html strict level 0//",
    "-//ietf//dtd html strict level 1//", "-//ietf//dtd html strict level 2//",
    "-//ietf//dtd html strict level 3//", "-//ietf//dtd html strict//", "-//ietf//dtd html//",
    "-//metrius//dtd metrius presentational//",
    "-//microsoft//dtd internet explorer 2.0 html strict//",
    "-//microsoft//dtd internet explorer 2.0 html//",
    "-//microsoft//dtd internet explorer 2.0 tables//",
    "-//microsoft//dtd internet explorer 3.0 html strict//",
    "-//microsoft//dtd internet explorer 3.0 html//",
    "-//microsoft//dtd internet explorer 3.0 tables//", "-//netscape comm. corp.//dtd html//",
    "-//netscape comm. corp.//dtd strict html//", "-//o'reilly and associates//dtd html 2.0//",
    "-//o'reilly and associates//dtd html extended 1.0//",
    "-//o'reilly and associates//dtd html extended relaxed 1.0//",
    "-//softquad software//dtd hotmetal pro 6.0::19990601::extensions to html 4.0//",
    "-//softquad//dtd hotmetal pro 4.0::19971010::extensions to html 4.0//",
    "-//spyglass//dtd html 2.0 extended//", "-//sq//dtd html 2.0 hotmetal + extensions//",
    "-//sun microsystems corp.//dtd hotjava html//",
    "-//sun microsystems corp.//dtd hotjava strict html//", "-//w3c//dtd html 3 1995-03-24//",
    "-//w3c//dtd html 3.2 draft//", "-//w3c//dtd html 3.2 final//", "-//w3c//dtd html 3.2//",
    "-//w3c//dtd html 3.2s draft//", "-//w3c//dtd html 4.0 frameset//",
    "-//w3c//dtd html 4.0 transitional//", "-//w3c//dtd html experimental 19960712//",
    "-//w3c//dtd html experimental 970421//", "-//w3c//dtd w3 html//",
    "-//w3o//dtd w3 html 3.0//", "-//webtechs//dtd mozilla html 2.0//",
    "-//webtechs//dtd mozilla html//"]

/-- Beginnings that do so unless there is a system identifier. -/
def legacyPublicIdsAlone : List String :=
  ["-//w3c//dtd html 4.01 frameset//", "-//w3c//dtd html 4.01 transitional//"]

namespace Doctype

/-- Whether a public identifier in small letters asks for legacy layout. -/
def legacyPublicId (publicId : String) (hasSystemId : Bool) : Bool :=
  ["-//w3o//dtd w3 html strict 3.0//en//", "-/w3c/dtd html 4.0 transitional/en", "html"].elem
      publicId ||
    legacyPublicIds.any (Text.hasBeginning · publicId) ||
    (!hasSystemId && legacyPublicIdsAlone.any (Text.hasBeginning · publicId))

/-- Whether a system identifier in small letters asks for legacy layout. -/
def legacySystemId (systemId : String) : Bool :=
  Text.stripPrefix? "http:" systemId == some "//www.ibm.com/data/dtd/v11/ibmxhtml1-transitional.dtd"

/-- Whether a page with this document type has legacy layout, in which a table may stand in a
paragraph. -/
def isLegacy (doctype : Doctype) : Bool :=
  doctype.broken || doctype.name != "html" ||
    ((doctype.publicId.map Text.toLowerAscii).any (legacyPublicId · doctype.systemId.isSome)) ||
    ((doctype.systemId.map Text.toLowerAscii).any legacySystemId)

end Doctype

end ComposingProxy.Markup
