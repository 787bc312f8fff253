import JavaTree.Text.CharSet
import JavaTree.Text.Hex

/-!
# Characters of XML documents

An XML document cannot hold every character.  Those it cannot hold are shown by their code.

## Main definitions

* `Xml.isChar` — the characters that a document can hold.
* `Xml.isSpace`, `Xml.isNameStart`, `Xml.isNameChar` — the characters between the parts of markup,
  and those of names.
* `Xml.legible` — a text with every other character replaced by its code.
-/

namespace JavaTree.Xml

/-- Whether a document can hold the character. -/
def isChar (c : Char) : Bool :=
  let n := c.toNat
  n == 0x9 || n == 0xA || n == 0xD || (0x20 ≤ n && n != 0xFFFE && n != 0xFFFF)

/-- The blanks of markup. -/
def isSpace (c : Char) : Bool := c == ' ' || c == '\t' || c == '\n' || c == '\r'

/-- The characters that a name can start with, apart from the colon. -/
def nameStart : CharSet := ⟨#[
  (0x41, 0x5A), (0x5F, 0x5F), (0x61, 0x7A), (0xC0, 0xD6), (0xD8, 0xF6), (0xF8, 0x2FF),
  (0x370, 0x37D), (0x37F, 0x1FFF), (0x200C, 0x200D), (0x2070, 0x218F), (0x2C00, 0x2FEF),
  (0x3001, 0xD7FF), (0xF900, 0xFDCF), (0xFDF0, 0xFFFD), (0x10000, 0xEFFFF)]⟩

/-- The characters that can only follow in a name. -/
def nameRest : CharSet := ⟨#[
  (0x2D, 0x2E), (0x30, 0x39), (0xB7, 0xB7), (0x300, 0x36F), (0x203F, 0x2040)]⟩

/-- Whether a name can start with the character. -/
def isNameStart (c : Char) : Bool := nameStart.contains c

/-- Whether a name can go on with the character. -/
def isNameChar (c : Char) : Bool := nameStart.contains c || nameRest.contains c

/-- A character as it can be shown: itself, or a backslash, `u` and its code in four digits. -/
def legibleChar (c : Char) : List Char :=
  if isChar c then [c] else '\\' :: 'u' :: hexDigits 4 c.toNat

/-- A text with every character that a document cannot hold replaced by its code. -/
def legible (s : String) : String := String.ofList (s.toList.flatMap legibleChar)

end JavaTree.Xml
