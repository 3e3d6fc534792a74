import ProposalCheck.Pattern.Reading

/-!
# HTML in Markdown

Tags may stand inside a text and blocks of HTML may stand between paragraphs. A block starts with a
line of one of seven kinds (`blockKinds`); its kind decides which line ends it and whether it may
end a paragraph.
-/

namespace ProposalCheck.Markup.Html

/-! ## Tags -/

private def attributeName : String := "[a-zA-Z_:][a-zA-Z0-9:._-]*"

private def attributeValue : String :=
  "(?:[^\"'=<>`\\x00-\\x20]+|'[^']*'|\"[^\"]*\")"

private def tagAttribute : String :=
  "(?:\\s+" ++ attributeName ++ "(?:\\s*=\\s*" ++ attributeValue ++ ")?)"

private def openTag : String := "<[A-Za-z][A-Za-z0-9\\-]*" ++ tagAttribute ++ "*\\s*\\/?>"

private def closeTag : String := "<\\/[A-Za-z][A-Za-z0-9\\-]*\\s*>"

private def comment : String := "<!---?>|<!--(?:[^-]|-[^-]|--[^>])*-->"

private def processing : String := "<[?][\\s\\S]*?[?]>"

private def declaration : String := "<![A-Za-z][^>]*>"

private def characterData : String := "<!\\[CDATA\\[[\\s\\S]*?\\]\\]>"

/-- A piece of HTML at the start of a text: a tag, a comment, a processing instruction, a
declaration or character data. -/
def tag : Pattern :=
  .ofText ("^(?:" ++ "|".intercalate
    [openTag, closeTag, comment, processing, declaration, characterData] ++ ")")

/-- The start of an opening tag of a link. -/
def linkOpen : Pattern := .ofText "(?i)^<a[>\\s]"

/-- The closing tag of a link. -/
def linkClose : Pattern := .ofText "(?i)^</a\\s*>"

/-! ## Blocks -/

/-- A kind of block: the pattern of its first line, the pattern that a line has which ends it, and
whether it may end a paragraph. -/
structure BlockKind where
  opens : Pattern
  closes : Pattern
  interrupts : Bool

/-- The names of the elements that stand as blocks. -/
private def blockNames : List String := [
  "address", "article", "aside", "base", "basefont", "blockquote", "body", "caption", "center",
  "col", "colgroup", "dd", "details", "dialog", "dir", "div", "dl", "dt", "fieldset", "figcaption",
  "figure", "footer", "form", "frame", "frameset", "h1", "h2", "h3", "h4", "h5", "h6", "head",
  "header", "hr", "html", "iframe", "legend", "li", "link", "main", "menu", "menuitem", "nav",
  "noframes", "ol", "optgroup", "option", "p", "param", "search", "section", "summary", "table",
  "tbody", "td", "tfoot", "th", "thead", "title", "tr", "track", "ul"]

/-- The kinds of blocks, in the order in which a line is compared with them. -/
def blockKinds : List BlockKind := [
  { opens := .ofText "(?ai)^<(script|pre|style|textarea)(?=(\\s|>|$))",
    closes := .ofText "(?ai)<\\/(script|pre|style|textarea)>", interrupts := true },
  { opens := .ofText "^<!--", closes := .ofText "-->", interrupts := true },
  { opens := .ofText "^<\\?", closes := .ofText "\\?>", interrupts := true },
  { opens := .ofText "^<![A-Za-z]", closes := .ofText ">", interrupts := true },
  { opens := .ofText "^<!\\[CDATA\\[", closes := .ofText "\\]\\]>", interrupts := true },
  { opens := .ofText ("(?ai)^</?(" ++ "|".intercalate blockNames ++ ")(?=(\\s|/?>|$))"),
    closes := .ofText "^$", interrupts := true },
  { opens := .ofText ("^(?:" ++ openTag ++ "|" ++ closeTag ++ ")\\s*$"),
    closes := .ofText "^$", interrupts := false }]

end ProposalCheck.Markup.Html
