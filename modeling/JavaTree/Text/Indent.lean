/-!
# Indentation

Nested text is laid out with one unit of blanks for each level.

## Main definitions

* `indentation` — the blanks for one level.
* `lineStart` — a line break and the blanks of a level.
-/

namespace JavaTree

/-- The blanks for one level; a width below zero counts as zero. -/
def indentation (width : Int) : List Char := List.replicate width.toNat ' '

/-- A line break and the blanks of a level. -/
def lineStart (unit : List Char) (level : Nat) : List Char :=
  '\n' :: (List.replicate level unit).flatten

end JavaTree
