import ProposalCheck.Document.Fence
import ProposalCheck.Document.Preamble
import ProposalCheck.Markup.Reading
import ProposalCheck.Path

/-!
# Documents

A document is a text with its preamble and the tree of its body. It may have an origin, under which
diagnostics name it, and a path, from which its references are resolved.
-/

namespace ProposalCheck

/-- A parsed document. -/
structure Document where
  source : String
  bodySource : String
  preamble : Preamble
  body : Markup.Node
  origin : Option String
  path : Option Path
  /-- The number of lines in front of the body. -/
  bodyLine : Nat
deriving Repr, Inhabited

/-- Why a text is not a document. -/
inductive DocumentError where
  | fences (e : FenceError)
  | preamble (lines : List MalformedLine)
  | markup (e : Markup.MarkupError)
deriving Repr, Inhabited

namespace DocumentError

/-- The wording of the error. -/
def message : DocumentError → String
  | fences e => e.message
  | preamble lines => toString lines.length ++ " malformed preamble field(s)"
  | markup e => e.message

end DocumentError

namespace Document

/-- Reads a document. -/
def parse (source : String) (origin : Option String) (path : Option Path) :
    Except DocumentError Document := do
  let (preambleSource, bodySource) ← (Fence.split source).mapError .fences
  let preamble ← (Preamble.parse preambleSource).mapError .preamble
  let body ← (Markup.read bodySource).mapError .markup
  return { source, bodySource, preamble, body, origin, path
           bodyLine := Text.count '\n' preambleSource + 3 }

end Document

end ProposalCheck
