/-!
# Document trees

A Markdown text is read into a tree. Each node is one `Construct` with the lines of the text that it
covers, if its own lines are known, and its children in order. `Construct.category` is the coarser
name under which visitors look at a node.
-/

namespace ProposalCheck.Markup

/-- What a node of a document tree is. -/
inductive Construct where
  | root
  | blockquote
  | bulletList
  | orderedList
  | listItem
  | codeBlock (content : String)
  | fence (content : String)
  | htmlBlock (content : String)
  | paragraph
  | heading
  | thematicBreak
  | table
  | tableHead
  | tableBody
  | tableRow
  | headerCell
  | dataCell
  | footnoteBlock
  /-- A footnote; one that is written inside a text has no label. -/
  | footnote (label : Option String)
  | footnoteAnchor (label : Option String)
  | inline
  | text (content : String)
  /-- A character that was written as an escape or by its name, before it becomes part of a text. -/
  | special (content : String)
  | softBreak
  | hardBreak
  | code (content : String)
  | html (content : String)
  | emphasis
  | strong
  | strikethrough
  | link (target : String) (title : Option String)
  | image (source : String) (title : Option String) (alt : String)
  /-- A reference to a footnote; a footnote that is written in its place has no label. -/
  | footnoteRef (label : Option String)
deriving DecidableEq, Repr, Inhabited

namespace Construct

/-- The name of a construct. -/
def name : Construct → String
  | root => "root"
  | blockquote => "blockquote"
  | bulletList => "bullet_list"
  | orderedList => "ordered_list"
  | listItem => "list_item"
  | codeBlock _ => "code_block"
  | fence _ => "fence"
  | htmlBlock _ => "html_block"
  | paragraph => "paragraph"
  | heading => "heading"
  | thematicBreak => "hr"
  | table => "table"
  | tableHead => "thead"
  | tableBody => "tbody"
  | tableRow => "tr"
  | headerCell => "th"
  | dataCell => "td"
  | footnoteBlock => "footnote_block"
  | footnote _ => "footnote"
  | footnoteAnchor _ => "footnote_anchor"
  | inline => "inline"
  | text _ => "text"
  | special _ => "text_special"
  | softBreak => "softbreak"
  | hardBreak => "hardbreak"
  | code _ => "code_inline"
  | html _ => "html_inline"
  | emphasis => "em"
  | strong => "strong"
  | strikethrough => "s"
  | link _ _ => "link"
  | image _ _ _ => "image"
  | footnoteRef _ => "footnote_ref"

/-- The name of the category under which visitors look at a construct. -/
def category : Construct → String
  | root => "document"
  | blockquote => "block_quote"
  | bulletList => "list"
  | orderedList => "list"
  | listItem => "item"
  | codeBlock _ => "code_block"
  | fence _ => "code_block"
  | htmlBlock _ => "html_block"
  | paragraph => "paragraph"
  | heading => "heading"
  | thematicBreak => "thematic_break"
  | table => "table"
  | tableHead => "table_section"
  | tableBody => "table_section"
  | tableRow => "table_row"
  | headerCell => "table_cell"
  | dataCell => "table_cell"
  | footnoteBlock => "footnote_block"
  | footnote _ => "footnote_definition"
  | footnoteAnchor _ => "footnote_anchor"
  | inline => "inline"
  | text _ => "text"
  | special _ => "other"
  | softBreak => "soft_break"
  | hardBreak => "line_break"
  | code _ => "code"
  | html _ => "html_inline"
  | emphasis => "emph"
  | strong => "strong"
  | strikethrough => "strikethrough"
  | link _ _ => "link"
  | image _ _ _ => "image"
  | footnoteRef _ => "footnote_reference"

/-- The text that a construct holds itself, if it is one that holds text. -/
def content? : Construct → Option String
  | codeBlock s => some s
  | fence s => some s
  | htmlBlock s => some s
  | text s => some s
  | special s => some s
  | code s => some s
  | html s => some s
  | image _ _ alt => some alt
  | _ => none

/-- The title of a link or an image. -/
def title? : Construct → Option String
  | link _ title => title
  | image _ title _ => title
  | _ => none

end Construct

/-- A range of lines, counted from zero: the first one and the one past the last. -/
abbrev LineSpan := Nat × Nat

/-- A document tree. -/
inductive Node where
  | node (construct : Construct) (lines : Option LineSpan) (children : List Node)
deriving Repr, Inhabited, BEq

namespace Node

/-- What a node is. -/
def construct : Node → Construct
  | node c _ _ => c

/-- The lines a node covers, if they are known of the node itself. -/
def lines : Node → Option LineSpan
  | node _ l _ => l

/-- The children of a node. -/
def children : Node → List Node
  | node _ _ cs => cs

@[simp] theorem construct_node (c : Construct) (l : Option LineSpan) (cs : List Node) :
    (node c l cs).construct = c := rfl

@[simp] theorem lines_node (c : Construct) (l : Option LineSpan) (cs : List Node) :
    (node c l cs).lines = l := rfl

@[simp] theorem children_node (c : Construct) (l : Option LineSpan) (cs : List Node) :
    (node c l cs).children = cs := rfl

end Node

end ProposalCheck.Markup
