import JavaTree.Text.Hex
import JavaTree.Text.Printable

/-!
# Quoted texts

A text in quotes, as messages show it: single quotes, or double ones if the text holds single quotes
only; characters without a shape are written by their codes.

## Main definitions

* `quoteMark` — the quotes that are put around a text.
* `quoted` — the text in quotes.
-/

namespace JavaTree

/-- The quotes that are put around a text. -/
def quoteMark (cs : List Char) : Char :=
  if cs.contains '\'' && !cs.contains '"' then '"' else '\''

/-- The code of a character, in as many digits as it needs: two, four or eight. -/
def characterCode (c : Char) : List Char :=
  let n := c.toNat
  if n < 0x100 then '\\' :: 'x' :: hexDigits 2 n
  else if n < 0x10000 then '\\' :: 'u' :: hexDigits 4 n
  else '\\' :: 'U' :: hexDigits 8 n

/-- A character between quotes. -/
def quotedChar (mark c : Char) : List Char :=
  if c == mark || c == '\\' then ['\\', c]
  else if c == '\n' then ['\\', 'n']
  else if c == '\r' then ['\\', 'r']
  else if c == '\t' then ['\\', 't']
  else if CharSet.hidden.contains c then characterCode c
  else [c]

/-- A text in quotes. -/
def quoted (s : String) : String :=
  let mark := quoteMark s.toList
  String.ofList (mark :: s.toList.flatMap (quotedChar mark) ++ [mark])

end JavaTree
