import JavaTree.Text.CharSet

/-!
# Blank characters

Fields of texts are trimmed of blanks: the characters of the Unicode property `White_Space`, and the
four separators `U+001C` to `U+001F`.

## Main definitions

* `CharSet.blank` — the blanks.
* `isBlank`, `trimStart`, `trim` — tests and trimming for lists of characters and texts.
-/

namespace JavaTree

/-- The characters that are trimmed off texts. -/
def CharSet.blank : CharSet := ⟨#[
  (0x9, 0xD), (0x1C, 0x20), (0x85, 0x85), (0xA0, 0xA0), (0x1680, 0x1680), (0x2000, 0x200A),
  (0x2028, 0x2029), (0x202F, 0x202F), (0x205F, 0x205F), (0x3000, 0x3000)]⟩

/-- Whether a character is trimmed off texts. -/
def isBlank (c : Char) : Bool := CharSet.blank.contains c

/-- A list of characters without the blanks at its start. -/
def trimStart (cs : List Char) : List Char := cs.dropWhile isBlank

/-- A list of characters without the blanks at either end. -/
def trimChars (cs : List Char) : List Char := (trimStart (trimStart cs).reverse).reverse

/-- A text without the blanks at either end. -/
def trim (s : String) : String := String.ofList (trimChars s.toList)

end JavaTree
