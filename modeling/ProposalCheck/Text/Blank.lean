import ProposalCheck.Text.Ranges

/-!
# Blank characters and trimming

A blank is a white-space character of the Unicode standard or one of the four information
separators. `trim` drops the blanks at both ends of a text, `trimEnd` those at its end.
-/

namespace ProposalCheck.Text

/-- The code points of the blanks. -/
def blanks : Ranges := [
  (0x9, 0xD), (0x1C, 0x20), (0x85, 0x85), (0xA0, 0xA0), (0x1680, 0x1680), (0x2000, 0x200A),
  (0x2028, 0x2029), (0x202F, 0x202F), (0x205F, 0x205F), (0x3000, 0x3000)]

/-- Whether a character is a blank. -/
def isBlank (c : Char) : Bool :=
  blanks.has c

/-- The characters without the blanks at the end. -/
def trimEndChars (cs : List Char) : List Char :=
  (cs.reverse.dropWhile isBlank).reverse

/-- The characters without the blanks at both ends. -/
def trimChars (cs : List Char) : List Char :=
  trimEndChars (cs.dropWhile isBlank)

/-- The text without the blanks at its end. -/
def trimEnd (s : String) : String :=
  String.ofList (trimEndChars s.toList)

/-- The text without the blanks at both ends. -/
def trim (s : String) : String :=
  String.ofList (trimChars s.toList)

@[simp] theorem toList_trimEnd (s : String) : (trimEnd s).toList = trimEndChars s.toList := by
  simp [trimEnd]

@[simp] theorem toList_trim (s : String) : (trim s).toList = trimChars s.toList := by
  simp [trim]

end ProposalCheck.Text
