/-!
# Lines

A text is cut into lines at line feeds, carriage returns, both together, and the other characters
that Unicode and ASCII know for the purpose.  A text that ends with a line end has no empty line
after it.

## Main definitions

* `isLineEnd` — the characters that end a line.
* `lines` — the lines of a text, without their ends.
* `unifyLineEnds` — the text with every carriage return read as a line feed, together with a line
  feed after it.
-/

namespace JavaTree

/-- Whether a character ends a line. -/
def isLineEnd (c : Char) : Bool :=
  let n := c.toNat
  (0x0A ≤ n && n ≤ 0x0D) || (0x1C ≤ n && n ≤ 0x1E) || n == 0x85 || n == 0x2028 || n == 0x2029

/-- The lines of a text; `line` holds what has been read of the current one, backwards. -/
def linesFrom (line : List Char) : List Char → List (List Char)
  | [] => if line.isEmpty then [] else [line.reverse]
  | '\r' :: '\n' :: cs => line.reverse :: linesFrom [] cs
  | c :: cs => if isLineEnd c then line.reverse :: linesFrom [] cs else linesFrom (c :: line) cs

/-- The lines of a text, without their ends. -/
def lines (s : String) : List String := (linesFrom [] s.toList).map String.ofList

/-- Characters with every line end a line feed; `read` holds those before, backwards. -/
def unifyFrom (read : List Char) : List Char → List Char
  | [] => read.reverse
  | '\r' :: '\n' :: cs => unifyFrom ('\n' :: read) cs
  | '\r' :: cs => unifyFrom ('\n' :: read) cs
  | c :: cs => unifyFrom (c :: read) cs

/-- A text in which carriage returns, alone or before a line feed, are line feeds. -/
def unifyLineEnds (s : String) : String := String.ofList (unifyFrom [] s.toList)

end JavaTree
